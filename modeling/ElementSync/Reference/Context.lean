import ElementSync.Change.Basic
import ElementSync.Graph
import ElementSync.Reference.Strategy

/-!
# What a reference resolves to

Inside the metadata group nothing resolves. A target that the same group creates
or updates has no identifier yet, so an identifier strategy leaves the reference
unresolved and any other defers to the live element. Any other target is
serialized, the snapshot in the reference before the known elements.
-/
namespace ElementSync

inductive Resolution where
  | resolved (v : Value Element)
  | deferred (e : Element)
  | unresolved

namespace Resolution

def value? : Resolution → Option (Value Element)
  | resolved v => some v
  | _ => none

def isUnresolved : Resolution → Bool
  | unresolved => true
  | _ => false

end Resolution

structure LookupContext where
  group : String := ""
  metadataGroup : String := ElementSync.metadataGroup
  /-- The states that the changes of the group lead to; of one id the last counts. -/
  members : List Element := []
  strategy : Strategy := .default
  source : ElementSource := fun _ => none

namespace LookupContext

def forGroup (group : String) (changes : List (Change Element)) : LookupContext :=
  { group, members := changes.filterMap Change.after? }

def forRecords (group : String) (changes : List RecordChange) : LookupContext :=
  forGroup group (changes.map RecordChange.toChange)

variable (c : LookupContext)

def member? (id : ElementId) : Option Element := c.members.reverse.find? (·.id = id)

/-- The current state of a target: in the group, else known, else the snapshot. -/
def target? (r : Reference Element) : Option Element :=
  (c.member? r.target).or ((c.source r.target).or r.handle)

def resolveWith (s : Strategy) (r : Reference Element) : Resolution :=
  if c.group = c.metadataGroup then .unresolved
  else match c.member? r.target with
    | some live => if s.isIdentifier then .unresolved else .deferred live
    | none =>
      match (r.handle.or (c.source r.target)).bind s.serialize with
      | some v => .resolved v
      | none => .unresolved

def resolve (s : Option Strategy) (r : Reference Element) : Resolution :=
  c.resolveWith (s.getD c.strategy) r

end LookupContext

end ElementSync
