/-!
# Patterns

A pattern is a regular expression. Its atoms take one character, or look at the
characters on both sides of a position. A set of positions of a text is held as
the bits of a number; a pattern moves such sets forward, and it occurs in the text
when some position is left.
-/
namespace ElementSync

inductive Pattern (α : Type) where
  | empty
  | atom (a : α)
  | seq (p q : Pattern α)
  | alt (p q : Pattern α)
  | times (p : Pattern α) (least : Nat) (most : Option Nat)

inductive Atom where
  | take (test : Char → Bool)
  | look (test : Option Char → Option Char → Bool)

/-- PlaceSet of a text, by the bits of a number. -/
abbrev PlaceSet := Nat

namespace Atom

/-- The positions whose neighbours pass a test. -/
def places (test : Option Char → Option Char → Bool) (before : Option Char) :
    List Char → PlaceSet
  | [] => if test before none then 1 else 0
  | c :: cs => 2 * places test (some c) cs + if test before (some c) then 1 else 0

def move (text : List Char) : Atom → PlaceSet → PlaceSet
  | take test =>
    let there := places (fun _ next => next.any test) none text
    fun s => (s &&& there) <<< 1
  | look test =>
    let there := places test none text
    fun s => s &&& there

end Atom

namespace Pattern
variable {α β : Type}

def map (f : α → β) : Pattern α → Pattern β
  | empty => empty
  | atom a => atom (f a)
  | seq p q => seq (p.map f) (q.map f)
  | alt p q => alt (p.map f) (q.map f)
  | times p least most => times (p.map f) least most

/-- Exactly `n` rounds; a set that a round keeps is kept by all. -/
def rounds (f : PlaceSet → PlaceSet) : Nat → PlaceSet → PlaceSet
  | 0, s => s
  | n + 1, s =>
    let t := f s
    if t = s then s else rounds f n t

/-- At most `n` rounds. -/
def upTo (f : PlaceSet → PlaceSet) : Nat → PlaceSet → PlaceSet :=
  rounds fun s => s ||| f s

/-- The positions that can be reached from a set in a text with `n` characters. More
than `n + 1` rounds reach nothing new. -/
def reach (n : Nat) : Pattern (PlaceSet → PlaceSet) → PlaceSet → PlaceSet
  | empty => fun s => s
  | atom f => f
  | seq p q => fun s => reach n q (reach n p s)
  | alt p q => fun s => reach n p s ||| reach n q s
  | times p least most => fun s =>
    let more := match most with
      | some m => m - least
      | none => n + 1
    upTo (reach n p) (min more (n + 1)) (rounds (reach n p) (min least (n + 1)) s)

/-- Whether a pattern occurs somewhere in a text. -/
def occursIn (p : Pattern Atom) (text : String) : Bool :=
  let cs := text.toList
  reach cs.length (p.map (Atom.move cs)) (Nat.pow 2 (cs.length + 1) - 1) ≠ 0

/-- A repeated repetition is one repetition when both are simple ones. -/
def repeated (p : Pattern α) (least : Nat) (most : Option Nat) : Pattern α :=
  match p with
  | times q l m =>
    if isSimple l m && isSimple least most then
      times q (l * least) (if m.isSome && most.isSome then some 1 else none)
    else times p least most
  | p => times p least most
where
  isSimple (least : Nat) (most : Option Nat) : Bool := least ≤ 1 && (most = none || most = some 1)

/-- Takes no character. -/
def isBlind : Pattern Atom → Bool
  | empty => true
  | atom (.take _) => false
  | atom (.look _) => true
  | seq p q => isBlind p && isBlind q
  | alt p q => isBlind p && isBlind q
  | times p _ most => isBlind p || most = some 0

/-- The number of states of a machine that matches the pattern. -/
def size : Pattern Atom → Nat
  | empty => 1
  | atom _ => 1
  | seq p q => size p + size q
  | alt p q => size p + size q + 1
  | times p least most =>
    if isBlind p then size p + 1
    else match most with
      | some m => least * size p + (m - least) * (size p + 1)
      | none => max least 1 * size p + 1

end Pattern

end ElementSync
