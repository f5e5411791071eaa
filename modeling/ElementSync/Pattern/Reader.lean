import ElementSync.Pattern.Class

/-!
# Reading patterns

A repetition applies to what stands right before it. Flags that a group sets for
itself hold in the group; flags set on their own hold up to the end of the group
that they stand in.
-/
namespace ElementSync.Pattern

/-- Flags up to the colon or closing parenthesis that ends them; it is given back. -/
def readFlags (negated justNegated : Bool) (seen : FlagChange) :
    List Char → Option (FlagChange × List Char)
  | [] => none
  | c :: cs =>
    if c = ':' || c = ')' then if justNegated then none else some (seen.reverse, c :: cs)
    else if c = '-' then if negated then none else readFlags true true seen cs
    else do
      let flag ← Flag.ofChar? c
      if seen.any (·.1 = flag) then none
      readFlags negated false ((flag, !negated) :: seen) cs

def isNameStart (c : Char) : Bool := c = '_' || Unicode.isAlphabetic c

def isNamePart (c : Char) : Bool :=
  ['_', '.', '[', ']'].contains c || Unicode.isAlphabetic c || Unicode.isNumeric c

/-- The name of a group, whose closing angle bracket is taken too. -/
def readGroupName (cs : List Char) : Option (String × List Char) :=
  match cs.takeWhile (· ≠ '>'), cs.dropWhile (· ≠ '>') with
  | c :: name, _ :: rest =>
    if isNameStart c && name.all isNamePart then some (String.ofList (c :: name), rest) else none
  | _, _ => none

inductive Opening where
  | flags (f : FlagChange)
  | group (name : Option String) (f : FlagChange)

/-- What follows an opening parenthesis, up to the content of the group. -/
def readOpening (verbose : Bool) (cs : List Char) : Option (Opening × List Char) :=
  match skip verbose cs with
  | '?' :: '=' :: _ => none
  | '?' :: '!' :: _ => none
  | '?' :: '<' :: '=' :: _ => none
  | '?' :: '<' :: '!' :: _ => none
  | '?' :: 'P' :: '<' :: cs => named cs
  | '?' :: '<' :: cs => named cs
  | '?' :: cs => do
    let (f, rest) ← readFlags false false [] cs
    match rest with
    | ':' :: rest => return (.group none f, rest)
    | _ :: rest => if f.isEmpty then none else return (.flags f, rest)
    | [] => none
  | cs => some (.group none [], cs)
where
  named (cs : List Char) : Option (Opening × List Char) :=
    (readGroupName cs).map fun (name, rest) => (.group name [], rest)

def verboseAfter (f : FlagChange) (verbose : Bool) : Bool := (f.lookup .verbose).getD verbose

/-- Blanks are skipped around the number, verbose or not. -/
def readCount (verbose : Bool) (cs : List Char) : Option (Nat × List Char) := do
  let (digits, rest) := go cs.length (cs.dropWhile Text.isBlank)
  let n ← Text.natOfDigits? digits
  if n < Nat.pow 2 32 then return (n, skip verbose (rest.dropWhile Text.isBlank)) else none
where
  go : Nat → List Char → List Char × List Char
    | fuel + 1, c :: cs =>
      if c.isDigit then
        let (digits, rest) := go fuel (skip verbose cs)
        (c :: digits, rest)
      else ([], c :: cs)
    | _, cs => ([], cs)

/-- What follows the brace of a counted repetition. -/
def readCounts (verbose : Bool) (cs : List Char) :
    Option (Nat × Option Nat × List Char) := do
  let (least, rest) ← readCount verbose (skip verbose cs)
  match rest with
  | '}' :: rest => return (least, some least, rest)
  | ',' :: rest => match skip verbose rest with
    | '}' :: rest => return (least, none, rest)
    | rest =>
      let (most, rest) ← readCount verbose rest
      let ('}' :: rest) := rest | none
      if least ≤ most then return (least, some most, rest) else none
  | _ => none

/-- The branches of a group read so far; the items of the last branch newest first. -/
structure Draft where
  branches : Option Tree := none
  items : List Tree := []

namespace Draft

def push (d : Draft) (t : Tree) : Draft := { d with items := t :: d.items }

def sequence (d : Draft) : Tree :=
  match d.items.reverse with
  | [] => .empty
  | t :: ts => ts.foldl .seq t

def close (d : Draft) : Tree :=
  match d.branches with
  | none => d.sequence
  | some t => .alt t d.sequence

def branch (d : Draft) : Draft := { branches := some d.close }

/-- Nothing and flags cannot be repeated. -/
def repeatLast (d : Draft) (least : Nat) (most : Option Nat) : Option Draft :=
  match d.items with
  | [] => none
  | .empty :: _ => none
  | .flags _ :: _ => none
  | t :: ts => some { d with items := .times t least most :: ts }

end Draft

/-- A question mark behind a repetition changes which match is preferred, not
whether there is one. -/
def skipLazy : List Char → List Char
  | '?' :: cs => cs
  | cs => cs

/-- Reads up to the end of the group, or of the text outside of groups. -/
def readGroup (inGroup : Bool) :
    Nat → Bool → Draft → List Char → Option (Tree × List Char)
  | 0, _, _, _ => none
  | fuel + 1, verbose, d, cs => match skip verbose cs with
    | [] => if inGroup then none else some (d.close, [])
    | ')' :: cs => if inGroup then some (d.close, cs) else none
    | '|' :: cs => readGroup inGroup fuel verbose d.branch cs
    | '(' :: cs => do
      match ← readOpening verbose cs with
      | (.flags f, rest) => readGroup inGroup fuel (verboseAfter f verbose) (d.push (.flags f)) rest
      | (.group name f, rest) =>
        let (t, rest) ← readGroup true fuel (verboseAfter f verbose) {} rest
        readGroup inGroup fuel verbose (d.push (.group name f t)) rest
    | '[' :: cs => do
      let (t, rest) ← readClass verbose cs
      readGroup inGroup fuel verbose (d.push t) rest
    | '?' :: cs => do readGroup inGroup fuel verbose (← d.repeatLast 0 (some 1)) (skipLazy cs)
    | '*' :: cs => do readGroup inGroup fuel verbose (← d.repeatLast 0 none) (skipLazy cs)
    | '+' :: cs => do readGroup inGroup fuel verbose (← d.repeatLast 1 none) (skipLazy cs)
    | '{' :: cs => do
      let (least, most, rest) ← readCounts verbose cs
      readGroup inGroup fuel verbose (← d.repeatLast least most) (skipLazy (skip verbose rest))
    | '\\' :: cs => do
      let (s, rest) ← readEscape verbose cs
      readGroup inGroup fuel verbose (d.push (.symbol s)) rest
    | '.' :: cs => readGroup inGroup fuel verbose (d.push (.symbol .dot)) cs
    | '^' :: cs => readGroup inGroup fuel verbose (d.push (.symbol (.anchor .lineStart))) cs
    | '$' :: cs => readGroup inGroup fuel verbose (d.push (.symbol (.anchor .lineEnd))) cs
    | c :: cs => readGroup inGroup fuel verbose (d.push (.symbol (.literal c false))) cs

/-- How deep the parts of a pattern may be nested. -/
def maxDepth : Nat := 250

/-- The tree of a pattern; no two groups have one name. -/
def readTree (text : String) : Option Tree := do
  let (t, _) ← readGroup false (text.toList.length + 1) false {} text.toList
  if t.depth ≤ maxDepth && t.groupNames.Nodup then some t else none

end ElementSync.Pattern
