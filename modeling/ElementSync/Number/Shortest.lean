import ElementSync.Number.Binary64

/-!
# Shortest decimal text

The digits of a number are the fewest that read back as the same number, and of
those the nearest to it. They are written positionally, never with an exponent.
-/
namespace ElementSync.Binary64

/-- Four times the magnitude and the ends of the interval that rounds to it,
all over one denominator. -/
structure Rounding where
  low : Nat
  value : Nat
  high : Nat
  denominator : Nat
  closed : Bool

def rounding (x : Binary64) : Rounding :=
  let m := x.significand
  let below := if x.fraction = 0 && x.exponentField > 1 then 1 else 2
  let scale := if 0 ≤ x.exponent then Nat.pow 2 x.exponent.toNat else 1
  { low := (4 * m - below) * scale
    value := 4 * m * scale
    high := (4 * m + 2) * scale
    denominator := 4 * (if 0 ≤ x.exponent then 1 else Nat.pow 2 (-x.exponent).toNat)
    closed := m % 2 = 0 }

namespace Rounding

/-- The same fractions counted in units of `10 ^ p`. -/
def inUnits (r : Rounding) (p : Int) : Rounding :=
  if 0 ≤ p then { r with denominator := r.denominator * Nat.pow 10 p.toNat }
  else
    let s := Nat.pow 10 (-p).toNat
    { r with low := r.low * s, value := r.value * s, high := r.high * s }

def covers (r : Rounding) (d : Nat) : Bool :=
  let n := d * r.denominator
  if r.closed then r.low ≤ n && n ≤ r.high else r.low < n && n < r.high

/-- The nearer of the two neighbours on the grid that lie in the interval; of
two equally near the upper. -/
def digits? (r : Rounding) : Option Nat :=
  let d := r.value / r.denominator
  let rest := 2 * (r.value % r.denominator)
  match r.covers d, r.covers (d + 1) with
  | true, true => some (if rest < r.denominator then d else d + 1)
  | true, false => some d
  | false, true => some (d + 1)
  | false, false => none

/-- Refines the grid one decimal place at a time until it meets the interval. -/
def search (r : Rounding) : Nat → Int → Nat × Int
  | 0, p => ((r.inUnits p).value / (r.inUnits p).denominator, p)
  | n + 1, p => match (r.inUnits p).digits? with
    | some d => (d, p)
    | none => search r n (p - 1)

end Rounding

/-- Digits and decimal exponent of a finite positive number. The first grid is
coarser than the number, and 17 significant digits always suffice. -/
def shortest (x : Binary64) : Nat × Int :=
  let r := x.rounding
  let size (n : Nat) : Int := (Nat.toDigits 10 n).length
  r.search 20 (size r.value - size r.denominator + 1)

/-- The digits of `d`, `p` places to the left of the units. -/
def positional (d : Nat) (p : Int) : String :=
  let ds := Nat.toDigits 10 d
  if 0 ≤ p then String.ofList (ds ++ List.replicate p.toNat '0')
  else
    let places := (-p).toNat
    let padded := List.replicate (places + 1 - ds.length) '0' ++ ds
    let whole := padded.take (padded.length - places)
    String.ofList (whole ++ '.' :: padded.drop (padded.length - places))

def toText (x : Binary64) : String :=
  if x.isNaN then "NaN"
  else
    let sign := if x.isNegative then "-" else ""
    if !x.isFinite then sign ++ "inf"
    else if x.isZero then sign ++ "0"
    else sign ++ positional x.shortest.1 x.shortest.2

end ElementSync.Binary64
