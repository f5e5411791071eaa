/-!
# Cutting and sorting text

Text is cut at a separator, or into runs of neighbours that agree on a test.
Both cuts lose nothing: joining the pieces gives the text back. Texts are compared
by code points, and sorting keeps the order of equal keys. Blanks are the characters
with the Unicode property White_Space.
-/
namespace ElementSync.Text

/-! ### Pieces -/

/-- The pieces between the occurrences of `sep`; there is always at least one. -/
def pieces (sep : Char) : List Char → List (List Char)
  | [] => [[]]
  | c :: cs =>
    if c = sep then [] :: pieces sep cs
    else match pieces sep cs with
      | [] => [[c]]
      | p :: ps => (c :: p) :: ps

def split (sep : Char) (s : String) : List String :=
  (pieces sep s.toList).map String.ofList

theorem pieces_ne_nil (sep : Char) (cs : List Char) : pieces sep cs ≠ [] := by
  cases cs with
  | nil => simp [pieces]
  | cons c cs =>
    unfold pieces
    split
    · simp
    · split <;> simp

/-- The part before the first occurrence of a non-empty marker, or everything. -/
def before (marker : List Char) : List Char → List Char
  | [] => []
  | c :: cs => if marker.isPrefixOf (c :: cs) then [] else c :: before marker cs

def contains (marker : List Char) : List Char → Bool
  | [] => marker.isEmpty
  | c :: cs => marker.isPrefixOf (c :: cs) || contains marker cs

/-- What is left of `cs` when it ends in `suffix`. -/
def stripSuffix? (suffix cs : List Char) : Option (List Char) :=
  if suffix.isSuffixOf cs then some (cs.take (cs.length - suffix.length)) else none

/-- What follows the last occurrence of `marker`, if there is one. -/
def afterLast? (marker : List Char) : List Char → Option (List Char)
  | [] => if marker.isEmpty then some [] else none
  | c :: cs => match afterLast? marker cs with
    | some rest => some rest
    | none => if marker.isPrefixOf (c :: cs) then some ((c :: cs).drop marker.length) else none

/-! ### Digits -/

/-- Maximal runs of ASCII digits and of everything else, in order. -/
def digitRuns (s : String) : List String :=
  (s.toList.splitBy fun a b => a.isDigit == b.isDigit).map String.ofList

/-- The number that a non-empty run of ASCII digits writes. -/
def natOfDigits? (cs : List Char) : Option Nat :=
  if !cs.isEmpty && cs.all Char.isDigit then
    some (cs.foldl (fun n c => 10 * n + (c.toNat - '0'.toNat)) 0)
  else none

/-- Digits after at most one plus sign, for a number below 2^64. -/
def isPosition (s : String) : Bool :=
  let digits := match s.toList with
    | '+' :: cs => cs
    | cs => cs
  match natOfDigits? digits with
  | some n => n < Nat.pow 2 64
  | none => false

/-! ### Blanks -/

def blankRanges : List (Nat × Nat) :=
  [(0x9, 0xd), (0x20, 0x20), (0x85, 0x85), (0xa0, 0xa0), (0x1680, 0x1680), (0x2000, 0x200a),
    (0x2028, 0x2029), (0x202f, 0x202f), (0x205f, 0x205f), (0x3000, 0x3000)]

def isBlank (c : Char) : Bool :=
  blankRanges.any fun (lo, hi) => lo ≤ c.toNat && c.toNat ≤ hi

/-- The first run of characters that are not blank; empty if there is none. -/
def firstWord (cs : List Char) : List Char :=
  (cs.dropWhile isBlank).takeWhile (!isBlank ·)

/-! ### Order -/

def sortBy {α : Type} (key : α → String) (xs : List α) : List α :=
  xs.mergeSort fun a b => !decide (key b < key a)

def sort (xs : List String) : List String := sortBy id xs

end ElementSync.Text
