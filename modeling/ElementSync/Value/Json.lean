import ElementSync.Json
import ElementSync.Value.Same

/-!
# Values and JSON

Reading drops every null and takes an integer beyond 64 bits as a float. Writing
fails on the first reference or template, which have no wire form.
-/
namespace ElementSync

/-- Why a value cannot be written. -/
inductive Unresolved where
  | reference (target : ElementId)
  | template (display : String)
deriving DecidableEq

def Unresolved.message : Unresolved → String
  | reference target => "reference to " ++ target.fullName
  | template display => "template '" ++ display ++ "'"

variable {η : Type}

namespace Scalar

def ofInt (n : Int) : Scalar :=
  if -(Nat.pow 2 63 : Int) ≤ n ∧ n < Nat.pow 2 63 then .int (Int64.ofInt n)
  else .float (Binary64.ofInt n)

/-- A number that is not finite has no JSON form but null. -/
def toJson : Scalar → Json
  | .bool b => .bool b
  | .int n => .int n.toInt
  | .float x => if x.isFinite then .float x else .null
  | .text s => .string s

end Scalar

namespace Value

mutual
def ofJson? : Json → Option (Value η)
  | .null => none
  | .bool b => some (.scalar (.bool b))
  | .int n => some (.scalar (Scalar.ofInt n))
  | .float x => some (.scalar (.float x))
  | .string s => some (.scalar (.text s))
  | .array items => some (.sequence (ofItems items))
  | .object entries => some (.mapping (ofEntries entries))

def ofItems : List Json → List (Value η)
  | [] => []
  | j :: items => (ofJson? j).elim (ofItems items) fun v => v :: ofItems items

def ofEntries : List (String × Json) → List (String × Value η)
  | [] => []
  | (k, j) :: entries => (ofJson? j).elim (ofEntries entries) fun v => (k, v) :: ofEntries entries
end

mutual
def toJson : Value η → Except Unresolved Json
  | .scalar s => .ok s.toJson
  | .reference r => .error (.reference r.target)
  | .template t => .error (.template t.display)
  | .mapping entries => return .object (← toEntries entries)
  | .sequence items => return .array (← toItems items)

def toItems : List (Value η) → Except Unresolved (List Json)
  | [] => return []
  | v :: items => return (← toJson v) :: (← toItems items)

def toEntries : List (String × Value η) → Except Unresolved (List (String × Json))
  | [] => return []
  | (k, v) :: entries => return (k, ← toJson v) :: (← toEntries entries)
end

end Value

namespace Values

def ofRecord (r : Record) : Values η := Value.ofEntries r

def toRecord (vs : Values η) : Except Unresolved Record := Value.toEntries vs

end Values

end ElementSync
