import ElementSync.Change.Finding
import ElementSync.Graph
import ElementSync.Reference.Index

/-!
# Optional references

The references in a list field may be optional: an element is deployed without
those whose target is missing, and the user is told.
-/
namespace ElementSync

/-- A list field of a type whose references are optional. -/
structure WeakField where
  typeName : String
  field : String
deriving DecidableEq

/-- Elements that lost references, and what the user is told about them. -/
structure Fixes where
  fixed : List Element := []
  findings : List Finding := []

namespace WeakField
variable (w : WeakField)

def entries? (e : Element) : Option (List (Value Element)) := do
  let i ← e.inst?
  if i.typeName = w.typeName then (← i.get? w.field).sequence? else none

def occurrences (es : List Element) : List Occurrence :=
  es.flatMap fun e => ((w.entries? e).getD []).zipIdx.filterMap fun (v, n) => do
    let r ← v.reference?
    return ⟨e.id.nest [w.field, toString n], r.target⟩

def present (source : ElementSource) (v : Value Element) : Bool :=
  v.reference?.all fun r => (source r.target).isSome

def warning (e : Element) : Finding :=
  .warning e.id
    ("Deploying " ++ e.id.name ++ " without all attached " ++ w.field)
    ("This " ++ w.typeName ++ " is attached to some " ++ w.field
      ++ " that do not exist in the target environment. "
      ++ "It will be deployed without referencing these.")

/-- The element without its missing references, if it has any. -/
def fix? (source : ElementSource) (e : Element) : Option Element := do
  let entries ← w.entries? e
  let i ← e.inst?
  let kept := entries.filter (present source)
  if kept.length = entries.length then none
  else some (.inst (i.set w.field (.sequence kept)))

def fixes (source : ElementSource) (es : List Element) : Fixes :=
  { fixed := es.filterMap (w.fix? source)
    findings := es.filter (fun e => (w.fix? source e).isSome) |>.map w.warning }

end WeakField

namespace Fixes

/-- An element takes the place of the first one with its id, if there is one. -/
def replace : List Element → Element → List Element
  | [], _ => []
  | d :: ds, e => if d.id = e.id then e :: ds else d :: replace ds e

/-- One handler works on the elements as the handlers before it left them. -/
def step (source : ElementSource) (state : List Element × Fixes) (w : WeakField) :
    List Element × Fixes :=
  let new := w.fixes source state.1
  (new.fixed.foldl replace state.1,
    { fixed := (new.fixed.foldl ElementGraph.upsert ⟨state.2.fixed⟩).elements
      findings := state.2.findings ++ new.findings })

def ofElements (source : ElementSource) (ws : List WeakField) (es : List Element) : Fixes :=
  (ws.foldl (step source) (es, {})).2

end Fixes

end ElementSync
