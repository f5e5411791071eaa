import ElementSync.Element.Basic
import ElementSync.Text.Split

/-!
# Condition logic

Some records keep a formula over the positions of other records, such as
`(1 AND 2) OR 3`. Unpacking turns the positions into references, packing turns
the references back into the current positions. A position is a run of digits
without leading zero that fits 64 bits; every other run stays text.
-/
namespace ElementSync.ConditionLogic

/-- Which record stands at which position. -/
abbrev Positions := Assoc Int Element

def position? (run : String) : Option Int :=
  match run.toList with
  | '0' :: _ :: _ => none
  | cs => match Text.natOfDigits? cs with
    | some n => if n < Nat.pow 2 63 then some n else none
    | none => none

inductive Run where
  | text (s : String)
  | missing (position : Int) (s : String)
  | found (e : Element)

namespace Run

def ofText (positions : Positions) (s : String) : Run :=
  match position? s with
  | none => text s
  | some n => match positions.lookup n with
    | some e => found e
    | none => missing n s

def part : Run → Template.Part Element
  | text s => .literal s
  | missing _ s => .literal s
  | found e => .reference (.ofElement e)

def isFound : Run → Bool
  | found _ => true
  | _ => false

def missing? : Run → Option Int
  | missing n _ => some n
  | _ => none

end Run

def runs (positions : Positions) (s : String) : List Run :=
  (Text.digitRuns s).map (Run.ofText positions)

/-- Text without any position of a record is no condition logic. -/
def unpack? (positions : Positions) (s : String) : Option (Template Element) :=
  let rs := runs positions s
  if rs.any Run.isFound then some (.ofParts (rs.map Run.part)) else none

/-- The positions in the text at which there is no record. -/
def missing (positions : Positions) (s : String) : List Int :=
  (runs positions s).filterMap Run.missing?

/-- Fails with the target of the first reference that has no position. -/
def packParts (position : Reference Element → Option Int) :
    List (Template.Part Element) → Except ElementId String
  | [] => .ok ""
  | .literal s :: ps => return s ++ (← packParts position ps)
  | .reference r :: ps => match position r with
    | some n => return toString n ++ (← packParts position ps)
    | none => .error r.target

def pack (position : Reference Element → Option Int) (t : Template Element) :
    Except ElementId String :=
  packParts position t.parts

def unresolvedMessage (target : ElementId) : String :=
  "cannot render template: no index for " ++ target.fullName

end ElementSync.ConditionLogic
