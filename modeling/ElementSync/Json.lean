import ElementSync.Assoc
import ElementSync.Number.Binary64

/-!
# Raw records of the external system

The external system answers in JSON. Integers and floats are told apart, and the
keys of an object keep their order.
-/
namespace ElementSync

inductive Json where
  | null
  | bool (b : Bool)
  | int (n : Int)
  | float (x : Binary64)
  | string (s : String)
  | array (items : List Json)
  | object (entries : List (String × Json))

namespace Json

def string? : Json → Option String
  | .string s => some s
  | _ => none

def bool? : Json → Option Bool
  | .bool b => some b
  | _ => none

def array? : Json → Option (List Json)
  | .array items => some items
  | _ => none

/-- A list of strings and nothing else. -/
def strings? (j : Json) : Option (List String) := do
  (← j.array?).mapM string?

end Json

/-- A record as it comes from the external system. -/
abbrev Record := Assoc String Json

end ElementSync
