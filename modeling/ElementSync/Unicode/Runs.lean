/-!
# Run tables

A property of all characters is written as the runs of its values, from the first
character on. A run is the name of the value, which starts with a capital, and
the length of the run, which is left out when it is one.
-/
namespace ElementSync.Unicode

structure Run where
  value : String
  count : Nat

/-- Takes in one more character of the text; the newest run comes first. -/
def readRun (runs : List (List Char × Nat)) (c : Char) : List (List Char × Nat) :=
  if c.isUpper then ([c], 0) :: runs
  else match runs with
    | [] => []
    | (value, n) :: rest =>
      if c.isDigit then (value, 10 * n + (c.toNat - '0'.toNat)) :: rest
      else (value ++ [c], n) :: rest

def decodeRuns (lines : List String) : List Run :=
  (lines.flatMap String.toList).foldl readRun [] |>.reverse.map fun (value, n) =>
    ⟨String.ofList value, max n 1⟩

def valueAtOffset? : List Run → Nat → Option String
  | [], _ => none
  | r :: rs, n => if n < r.count then some r.value else valueAtOffset? rs (n - r.count)

def valueAt? (runs : List Run) (c : Char) : Option String := valueAtOffset? runs c.toNat

end ElementSync.Unicode
