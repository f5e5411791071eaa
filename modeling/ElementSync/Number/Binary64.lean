/-!
# Double-precision numbers

A number is its 64 bits. Everything about it is computed from the decoded sign,
significand and exponent, so comparison, conversion and printing are exact
integer arithmetic. Powers are those of `Nat.pow`, whatever else `^` may mean
where the numbers are used.
-/
namespace ElementSync

structure Binary64 where
  bits : UInt64
deriving DecidableEq, Inhabited

namespace Binary64

def isNegative (x : Binary64) : Bool := x.bits.toNat ≥ Nat.pow 2 63

def exponentField (x : Binary64) : Nat := x.bits.toNat / Nat.pow 2 52 % Nat.pow 2 11

def fraction (x : Binary64) : Nat := x.bits.toNat % Nat.pow 2 52

def isFinite (x : Binary64) : Bool := x.exponentField ≠ 2047

def isNaN (x : Binary64) : Bool := !x.isFinite && x.fraction ≠ 0

def isZero (x : Binary64) : Bool := x.bits.toNat % Nat.pow 2 63 = 0

/-- The magnitude of a finite number is `significand * 2 ^ exponent`. -/
def significand (x : Binary64) : Nat :=
  if x.exponentField = 0 then x.fraction else Nat.pow 2 52 + x.fraction

def exponent (x : Binary64) : Int :=
  if x.exponentField = 0 then -1074 else (x.exponentField : Int) - 1075

/-- The magnitude of a finite number as a numerator and a power of two below it. -/
def ratio (x : Binary64) : Nat × Nat :=
  if 0 ≤ x.exponent then (x.significand * Nat.pow 2 x.exponent.toNat, 1)
  else (x.significand, Nat.pow 2 (-x.exponent).toNat)

def isIntegral (x : Binary64) : Bool := x.isFinite && x.ratio.1 % x.ratio.2 = 0

/-- A finite number without its fraction. -/
def truncate (x : Binary64) : Int :=
  let n : Int := x.ratio.1 / x.ratio.2
  if x.isNegative then -n else n

/-- Equality of numbers: not-a-number differs from all, both zeros are one. -/
def same (x y : Binary64) : Bool :=
  !x.isNaN && !y.isNaN && (x.bits = y.bits || (x.isZero && y.isZero))

/-- The number nearest to `n`, a tie going to the even significand. -/
def ofNat (n : Nat) : Binary64 :=
  if n = 0 then ⟨0⟩
  else
    let l := n.log2
    let m :=
      if l ≤ 52 then n * Nat.pow 2 (52 - l)
      else
        let unit := Nat.pow 2 (l - 52)
        let q := n / unit
        let r := 2 * (n % unit)
        if r > unit || (r = unit && q % 2 = 1) then q + 1 else q
    ⟨UInt64.ofNat ((l + 1022) * Nat.pow 2 52 + m)⟩

def ofInt (n : Int) : Binary64 :=
  if n < 0 then ⟨UInt64.ofNat (Nat.pow 2 63) ||| (ofNat n.natAbs).bits⟩ else ofNat n.toNat

end Binary64

/-- The whole number nearest to `n` that fits 64 bits. -/
def Int64.clamp (n : Int) : Int64 :=
  Int64.ofInt (max (-(Nat.pow 2 63 : Int)) (min ((Nat.pow 2 63 : Int) - 1) n))

end ElementSync
