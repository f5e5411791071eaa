import ElementSync.Pattern.Basic
import ElementSync.Pattern.Reader
import ElementSync.Unicode.CaseFolding

/-!
# What a pattern means

The flags that are on decide which characters an item takes. Without the Unicode
flag classes know bytes only, and whatever could take part of a character is
refused.
-/
namespace ElementSync.Pattern

structure Flags where
  ignoreCase : Bool := false
  multiLine : Bool := false
  dotMatchesNewline : Bool := false
  crlf : Bool := false
  unicode : Bool := true

namespace Flags

def change (f : Flags) (c : FlagChange) : Flags where
  ignoreCase := (c.lookup .ignoreCase).getD f.ignoreCase
  multiLine := (c.lookup .multiLine).getD f.multiLine
  dotMatchesNewline := (c.lookup .dotMatchesNewline).getD f.dotMatchesNewline
  crlf := (c.lookup .crlf).getD f.crlf
  unicode := (c.lookup .unicode).getD f.unicode

/-- The characters that differ in case only, the character itself included. -/
def variants (f : Flags) (c : Char) : List Char :=
  if f.unicode then c :: Unicode.orbit c else [c, c.toLower, c.toUpper]

/-- The test, with case ignored if the flag says so. -/
def folded (f : Flags) (test : Char → Bool) : Char → Bool :=
  if f.ignoreCase then fun c => (f.variants c).any test else test

/-- What a test leaves out; without Unicode, of the bytes. -/
def complement (f : Flags) (test : Char → Bool) : Char → Bool :=
  if f.unicode then fun c => !test c else fun c => c.toNat < 256 && !test c

def negatedIf (f : Flags) (negated : Bool) (test : Char → Bool) : Char → Bool :=
  if negated then f.complement test else test

end Flags

def isAsciiWord (c : Char) : Bool := c.isAlphanum || c = '_'

def isAsciiSpace (c : Char) : Bool := c = ' ' || (9 ≤ c.toNat && c.toNat ≤ 13)

def Shorthand.test (unicode : Bool) : Shorthand → Char → Bool
  | digit => if unicode then Unicode.isDecimalDigit else Char.isDigit
  | space => if unicode then Text.isBlank else isAsciiSpace
  | word => if unicode then Unicode.isWordChar else isAsciiWord

/-- The complement of a shorthand needs Unicode. -/
def Shorthand.meaning? (f : Flags) (s : Shorthand) (negated : Bool) : Option (Char → Bool) :=
  if negated && !f.unicode then none
  else some (f.negatedIf negated (s.test f.unicode))

def propertyMeaning? (f : Flags) (test : Char → Bool) (negated : Bool) :
    Option (Char → Bool) :=
  if f.unicode then some (f.negatedIf negated (f.folded test)) else none

def SetOperation.combine (o : SetOperation) (s t : Char → Bool) : Char → Bool :=
  match o with
  | intersection => fun c => s c && t c
  | difference => fun c => s c && !t c
  | symmetricDifference => fun c => s c != t c

/-- Characters that a class may name under the flags. -/
def mayName (f : Flags) (c : Char) : Bool := f.unicode || c.toNat < 128

/-- Case is ignored before a set is negated or combined. -/
def ClassSet.meaning? (f : Flags) : ClassSet → Option (Char → Bool)
  | empty => some fun _ => false
  | literal c => if mayName f c then some (· = c) else none
  | range a b =>
    if mayName f a && mayName f b then some fun c => a ≤ c && c ≤ b else none
  | ascii test negated => some (f.negatedIf negated (f.folded test))
  | shorthand s negated => s.meaning? f negated
  | property test negated => propertyMeaning? f test negated
  | bracketed negated s => do return f.negatedIf negated (f.folded (← s.meaning? f))
  | union s t => do
    let s ← s.meaning? f
    let t ← t.meaning? f
    return fun c => s c || t c
  | operation o s t => do
    return o.combine (f.folded (← s.meaning? f)) (f.folded (← t.meaning? f))

/-- The bytes that are no characters of their own. -/
def upperBytes : List Char := (List.range 128).map fun n => Char.ofNat (128 + n)

def classMeaning? (f : Flags) (negated : Bool) (s : ClassSet) : Option (Char → Bool) := do
  let test := f.negatedIf negated (f.folded (← s.meaning? f))
  if f.unicode || !upperBytes.any test then some test else none

def Anchor.test (f : Flags) : Anchor → Option Char → Option Char → Bool
  | textStart => fun before _ => before.isNone
  | textEnd => fun _ after => after.isNone
  | lineStart => fun before after =>
    before.isNone || (f.multiLine &&
      (before = some '\n' || (f.crlf && before = some '\r' && after ≠ some '\n')))
  | lineEnd => fun before after =>
    after.isNone || (f.multiLine &&
      if f.crlf then after = some '\r' || (after = some '\n' && before ≠ some '\r')
      else after = some '\n')
  | wordBoundary => fun before after => isWord before != isWord after
  | notWordBoundary => fun before after => isWord before == isWord after
  | wordStart => fun before after => !isWord before && isWord after
  | wordEnd => fun before after => isWord before && !isWord after
  | wordStartHalf => fun before _ => !isWord before
  | wordEndHalf => fun _ after => !isWord after
where
  isWord (c : Option Char) : Bool := c.any (Shorthand.word.test f.unicode)

def Symbol.meaning? (f : Flags) : Symbol → Option Atom
  | literal c isByte =>
    if isByte && !mayName f c then none
    else some (.take (if f.ignoreCase then (f.variants c).contains else (· = c)))
  | dot =>
    if !f.unicode then none
    else if f.dotMatchesNewline then some (.take fun _ => true)
    else if f.crlf then some (.take fun c => c ≠ '\n' && c ≠ '\r')
    else some (.take (· ≠ '\n'))
  | anchor a => some (.look (a.test f))
  | shorthand s negated => (s.meaning? f negated).map .take
  | property test negated => (propertyMeaning? f test negated).map .take

/-- The pattern that a tree stands for, and the flags that are on behind it. -/
def Tree.meaning? (f : Flags) : Tree → Option (Pattern Atom × Flags)
  | empty => some (.empty, f)
  | flags c => some (.empty, f.change c)
  | symbol s => do return (.atom (← s.meaning? f), f)
  | bracketed negated s => do return (.atom (.take (← classMeaning? f negated s)), f)
  | times t least most => do
    let (p, g) ← t.meaning? f
    return (p.repeated least most, g)
  | group _ c t => do
    let (p, _) ← t.meaning? (f.change c)
    return (p, f)
  | seq t u => do
    let (p, g) ← t.meaning? f
    let (q, h) ← u.meaning? g
    return (.seq p q, h)
  | alt t u => do
    let (p, g) ← t.meaning? f
    let (q, h) ← u.meaning? g
    return (.alt p q, h)

/-- The states that a machine may have. -/
def maxSize : Nat := 327680

def parse? (text : String) : Option (Pattern Atom) := do
  let (p, _) ← (← readTree text).meaning? {}
  if p.size ≤ maxSize then some p else none

end ElementSync.Pattern
