/-!
# The parse tree of a pattern

The tree keeps flags and classes as they are written. What they mean depends on
the flags that are on where they stand.
-/
namespace ElementSync.Pattern

inductive Flag where
  | ignoreCase
  | multiLine
  | dotMatchesNewline
  | swapGreed
  | unicode
  | crlf
  | verbose
deriving DecidableEq

def Flag.ofChar? : Char → Option Flag
  | 'i' => some ignoreCase
  | 'm' => some multiLine
  | 's' => some dotMatchesNewline
  | 'U' => some swapGreed
  | 'u' => some unicode
  | 'R' => some crlf
  | 'x' => some verbose
  | _ => none

/-- Flags that are switched on or off. -/
abbrev FlagChange := List (Flag × Bool)

inductive Anchor where
  | textStart
  | textEnd
  | lineStart
  | lineEnd
  | wordBoundary
  | notWordBoundary
  | wordStart
  | wordEnd
  | wordStartHalf
  | wordEndHalf
deriving DecidableEq

inductive Shorthand where
  | digit
  | space
  | word
deriving DecidableEq

/-- What one character or one escape stands for. -/
inductive Symbol where
  /-- A byte is a character written as two hexadecimal digits. -/
  | literal (c : Char) (isByte : Bool)
  | dot
  | anchor (a : Anchor)
  | shorthand (s : Shorthand) (negated : Bool)
  | property (test : Char → Bool) (negated : Bool)

inductive SetOperation where
  | intersection
  | difference
  | symmetricDifference
deriving DecidableEq

/-- What stands between the brackets of a class. Unions are nested to the left. -/
inductive ClassSet where
  | empty
  | literal (c : Char)
  | range (first last : Char)
  | ascii (test : Char → Bool) (negated : Bool)
  | shorthand (s : Shorthand) (negated : Bool)
  | property (test : Char → Bool) (negated : Bool)
  | bracketed (negated : Bool) (s : ClassSet)
  | union (s t : ClassSet)
  | operation (o : SetOperation) (s t : ClassSet)

/-- Sequences and alternatives are nested to the left. -/
inductive Tree where
  | empty
  | flags (f : FlagChange)
  | symbol (s : Symbol)
  | bracketed (negated : Bool) (s : ClassSet)
  | times (t : Tree) (least : Nat) (most : Option Nat)
  | group (name : Option String) (f : FlagChange) (t : Tree)
  | seq (t u : Tree)
  | alt (t u : Tree)

namespace ClassSet

/-- The depth of a set, and the depth of its members where a union counts as one level. -/
def depths : ClassSet → Nat × Nat
  | bracketed _ s =>
    let d := s.depths.1 + 1
    (d, d)
  | operation _ s t =>
    let d := max s.depths.1 t.depths.1 + 1
    (d, d)
  | union s t =>
    let d := max s.depths.2 t.depths.1
    (d + 1, d)
  | _ => (0, 0)

end ClassSet

namespace Tree

/-- The depth of a tree, of its parts as a sequence, and of its parts as alternatives. -/
def depths : Tree → Nat × Nat × Nat
  | bracketed _ s => level (s.depths.1 + 1)
  | times t _ _ => level (t.depths.1 + 1)
  | group _ _ t => level (t.depths.1 + 1)
  | seq t u =>
    let d := max t.depths.2.1 u.depths.1
    (d + 1, d, d + 1)
  | alt t u =>
    let d := max t.depths.2.2 u.depths.1
    (d + 1, d + 1, d)
  | _ => level 0
where
  level (d : Nat) : Nat × Nat × Nat := (d, d, d)

def depth (t : Tree) : Nat := t.depths.1

def groupNames : Tree → List String
  | times t _ _ => groupNames t
  | group name _ t => name.toList ++ groupNames t
  | seq t u => groupNames t ++ groupNames u
  | alt t u => groupNames t ++ groupNames u
  | _ => []

end Tree

end ElementSync.Pattern
