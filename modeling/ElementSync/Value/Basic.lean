import ElementSync.Assoc
import ElementSync.ElementId
import ElementSync.Number.Shortest

/-!
# Value trees

A value is a scalar, a reference to another element, a template that mixes text
and references, or a mapping or sequence of values. A reference may carry a
snapshot of its target; the type `η` of snapshots stays open here, because
nothing about a value tree looks inside them.
-/
namespace ElementSync

inductive Scalar where
  | bool (b : Bool)
  | int (n : Int64)
  | float (x : Binary64)
  | text (s : String)
deriving DecidableEq

namespace Scalar

/-- How a scalar reads inside a template. Whole floats below 10^15 lose their
point and their sign of zero. -/
def render : Scalar → String
  | .bool true => "true"
  | .bool false => "false"
  | .int n => toString n.toInt
  | .float x =>
    if x.isIntegral && x.truncate.natAbs < Nat.pow 10 15 then toString x.truncate else x.toText
  | .text s => s

def same : Scalar → Scalar → Bool
  | .float x, .float y => x.same y
  | a, b => a = b

end Scalar

structure Reference (η : Type) where
  target : ElementId
  handle : Option η := none

inductive Template.Part (η : Type) where
  | literal (s : String)
  | reference (r : Reference η)

structure Template (η : Type) where
  parts : List (Template.Part η)

inductive Value (η : Type) where
  | scalar (s : Scalar)
  | reference (r : Reference η)
  | template (t : Template η)
  | mapping (entries : List (String × Value η))
  | sequence (items : List (Value η))

/-- The values of an element by field name. -/
abbrev Values (η : Type) := Assoc String (Value η)

namespace Value
variable {η : Type}

def text (s : String) : Value η := .scalar (.text s)

def int (n : Int) : Value η := .scalar (.int (Int64.ofInt n))

def bool (b : Bool) : Value η := .scalar (.bool b)

def scalar? : Value η → Option Scalar
  | .scalar s => some s
  | _ => none

def text? : Value η → Option String
  | .scalar (.text s) => some s
  | _ => none

def bool? : Value η → Option Bool
  | .scalar (.bool b) => some b
  | _ => none

/-- An integer, or a float without fraction, at most as large as 64 bits allow. -/
def int? : Value η → Option Int64
  | .scalar (.int n) => some n
  | .scalar (.float x) => if x.isIntegral then some (Int64.clamp x.truncate) else none
  | _ => none

def float? : Value η → Option Binary64
  | .scalar (.int n) => some (Binary64.ofInt n.toInt)
  | .scalar (.float x) => some x
  | _ => none

def isNumber : Value η → Bool
  | .scalar (.int _) | .scalar (.float _) => true
  | _ => false

def reference? : Value η → Option (Reference η)
  | .reference r => some r
  | _ => none

def template? : Value η → Option (Template η)
  | .template t => some t
  | _ => none

def mapping? : Value η → Option (Values η)
  | .mapping entries => some entries
  | _ => none

def sequence? : Value η → Option (List (Value η))
  | .sequence items => some items
  | _ => none

end Value

end ElementSync
