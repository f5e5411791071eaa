import ElementSync.Pattern.Escape

/-!
# Reading classes

A class stands in brackets. A closing bracket right at the start and hyphens at
the start stand for themselves. Classes nest, and `&&`, `--` and `~~` combine what
stands on their left with what stands on their right.
-/
namespace ElementSync.Pattern

def asciiClasses : List (String × (Char → Bool)) :=
  [("alnum", Char.isAlphanum), ("alpha", Char.isAlpha), ("ascii", fun c => c.toNat < 128),
   ("blank", fun c => c = ' ' || c = '\t'),
   ("cntrl", fun c => c.toNat < 32 || c.toNat = 127), ("digit", Char.isDigit),
   ("graph", fun c => 33 ≤ c.toNat && c.toNat ≤ 126), ("lower", Char.isLower),
   ("print", fun c => 32 ≤ c.toNat && c.toNat ≤ 126),
   ("punct", fun c => 33 ≤ c.toNat && c.toNat ≤ 126 && !c.isAlphanum),
   ("space", fun c => c = ' ' || (9 ≤ c.toNat && c.toNat ≤ 13)), ("upper", Char.isUpper),
   ("word", fun c => c.isAlphanum || c = '_'), ("xdigit", fun c => (hexValue? c).isSome)]

/-- What follows the bracket of an ASCII class such as `[:alpha:]`. -/
def readAsciiClass (cs : List Char) : Option (ClassSet × List Char) := do
  let (':' :: cs) := cs | none
  let (negated, cs) := match cs with
    | '^' :: cs => (true, cs)
    | cs => (false, cs)
  let name := Text.before [':'] cs
  let (':' :: ']' :: rest) := cs.drop name.length | none
  return (.ascii (← asciiClasses.lookup (String.ofList name)) negated, rest)

/-- A class under construction: an operation that waits for its right side, and the
members read since. -/
structure ClassDraft where
  pending : Option (SetOperation × ClassSet) := none
  members : ClassSet := .empty

namespace ClassDraft

def add (d : ClassDraft) (s : ClassSet) : ClassDraft :=
  { d with members := match d.members with
    | .empty => s
    | m => .union m s }

def close (d : ClassDraft) : ClassSet :=
  match d.pending with
  | some (o, s) => .operation o s d.members
  | none => d.members

def operate (d : ClassDraft) (o : SetOperation) : ClassDraft := { pending := some (o, d.close) }

end ClassDraft

def readClassSymbol (verbose : Bool) : List Char → Option (Symbol × List Char)
  | '\\' :: cs => readEscape verbose cs
  | c :: cs => some (.literal c false, cs)
  | [] => none

def memberOf? : Symbol → Option ClassSet
  | .literal c _ => some (.literal c)
  | .shorthand s negated => some (.shorthand s negated)
  | .property test negated => some (.property test negated)
  | _ => none

def rangeOf? : Symbol → Symbol → Option ClassSet
  | .literal a _, .literal b _ => if a ≤ b then some (.range a b) else none
  | _, _ => none

/-- The character after the next one, which blanks do not hide. -/
def peek? (verbose : Bool) (cs : List Char) : Option Char :=
  let rest := cs.tail
  if verbose then
    match rest.dropWhile Text.isBlank with
    | '#' :: comment => (comment.dropWhile Text.isBlank).head?
    | cs => cs.head?
  else rest.head?

/-- One member: a range, unless what follows the hyphen ends the class or makes the
hyphen an operation. -/
def readMember (verbose : Bool) (cs : List Char) : Option (ClassSet × List Char) := do
  let (first, rest) ← readClassSymbol verbose cs
  let rest := skip verbose rest
  match rest with
  | [] => none
  | '-' :: after =>
    if peek? verbose rest = some ']' || peek? verbose rest = some '-' then
      return (← memberOf? first, rest)
    let after := skip verbose after
    let (last, rest) ← readClassSymbol verbose after
    return (← rangeOf? first last, rest)
  | _ => return (← memberOf? first, rest)

/-- Hyphens at the start of a class. -/
def readHyphens (verbose : Bool) : Nat → ClassDraft → List Char → ClassDraft × List Char
  | fuel + 1, d, '-' :: cs => readHyphens verbose fuel (d.add (.literal '-')) (skip verbose cs)
  | _, d, cs => (d, cs)

/-- What follows an opening bracket, up to the members that need no look-ahead. -/
def readClassStart (verbose : Bool) (cs : List Char) : Bool × ClassDraft × List Char :=
  let cs := skip verbose cs
  let (negated, cs) := match cs with
    | '^' :: cs => (true, skip verbose cs)
    | cs => (false, cs)
  let (draft, cs) := readHyphens verbose cs.length {} cs
  match draft.members, cs with
  | .empty, ']' :: cs => (negated, draft.add (.literal ']'), cs)
  | _, cs => (negated, draft, cs)

/-- The rest of a class, whose closing bracket is taken too. -/
def readClassRest (verbose : Bool) : Nat → ClassDraft → List Char → Option (ClassSet × List Char)
  | 0, _, _ => none
  | fuel + 1, d, cs => match skip verbose cs with
    | [] => none
    | '[' :: cs => match readAsciiClass cs with
      | some (s, rest) => readClassRest verbose fuel (d.add s) rest
      | none => do
        let (negated, inner, cs) := readClassStart verbose cs
        let (s, rest) ← readClassRest verbose fuel inner cs
        readClassRest verbose fuel (d.add (.bracketed negated s)) rest
    | ']' :: cs => some (d.close, cs)
    | '&' :: '&' :: cs => readClassRest verbose fuel (d.operate .intersection) cs
    | '-' :: '-' :: cs => readClassRest verbose fuel (d.operate .difference) cs
    | '~' :: '~' :: cs => readClassRest verbose fuel (d.operate .symmetricDifference) cs
    | cs => do
      let (s, rest) ← readMember verbose cs
      readClassRest verbose fuel (d.add s) rest

/-- What follows the opening bracket of a class. -/
def readClass (verbose : Bool) (cs : List Char) : Option (Tree × List Char) := do
  let (negated, draft, rest) := readClassStart verbose cs
  let (s, rest) ← readClassRest verbose (cs.length + 1) draft rest
  return (.bracketed negated s, rest)

end ElementSync.Pattern
