import ElementSync.Value.Template

/-!
# Equality of values

Values are the same when they say the same: mappings regardless of order,
references by their target alone, numbers as numbers of the same sort. Like the
numbers in them, values that hold not-a-number differ even from themselves.
-/
namespace ElementSync

namespace Value
variable {η : Type}

mutual
def same : Value η → Value η → Bool
  | .scalar a, .scalar b => a.same b
  | .reference a, .reference b => a.target = b.target
  | .template a, .template b => a.same b
  | .mapping a, .mapping b => a.length = b.length && entriesWithin a b
  | .sequence a, .sequence b => itemsSame a b
  | _, _ => false

def entriesWithin : List (String × Value η) → List (String × Value η) → Bool
  | [], _ => true
  | (k, v) :: a, b =>
    (match b.lookup k with
      | some w => same v w
      | none => false) && entriesWithin a b

def itemsSame : List (Value η) → List (Value η) → Bool
  | [], [] => true
  | v :: a, w :: b => same v w && itemsSame a b
  | _, _ => false
end

def optionSame : Option (Value η) → Option (Value η) → Bool
  | some v, some w => v.same w
  | none, none => true
  | _, _ => false

end Value

namespace Values
variable {η : Type}

def same (a b : Values η) : Bool := Value.same (.mapping a) (.mapping b)

end Values

end ElementSync
