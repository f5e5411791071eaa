import ElementSync.Assoc

/-!
# Configuration documents

The values of a TOML document. Floats, dates and times have a form but no use here,
so that nothing but their being there is kept.
-/
namespace ElementSync

inductive Toml where
  | bool (b : Bool)
  | int (n : Int)
  | string (s : String)
  /-- A float, a date or a time. -/
  | other
  | array (items : List Toml)
  | table (entries : List (String × Toml))

namespace Toml

def bool? : Toml → Option Bool
  | bool b => some b
  | _ => none

def string? : Toml → Option String
  | string s => some s
  | _ => none

def array? : Toml → Option (List Toml)
  | array items => some items
  | _ => none

def table? : Toml → Option (Assoc String Toml)
  | table entries => some entries
  | _ => none

def strings? (t : Toml) : Option (List String) := do (← t.array?).mapM string?

/-- A count is an integer that is not negative. -/
def count? : Toml → Option Nat
  | int n => if 0 ≤ n then some n.toNat else none
  | _ => none

end Toml

end ElementSync
