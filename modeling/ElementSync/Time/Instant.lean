import ElementSync.Text.Split

/-!
# Instants

An instant is read from RFC 3339 text: date and time of day, parted by a `T` or a
blank, and an offset. Digits of the fraction after the ninth are dropped. A leap
second lies in the second before the next minute.
-/
namespace ElementSync

/-- Seconds of the common time line, and nanoseconds; those of a leap second go
beyond one second. -/
structure Instant where
  seconds : Int
  nanos : Nat
deriving DecidableEq

namespace Instant

def le (a b : Instant) : Bool :=
  a.seconds < b.seconds || (a.seconds = b.seconds && a.nanos ≤ b.nanos)

def isLeapYear (y : Nat) : Bool := y % 4 = 0 && (y % 100 ≠ 0 || y % 400 = 0)

def daysInMonth (y m : Nat) : Nat :=
  if m = 2 then (if isLeapYear y then 29 else 28)
  else if m ∈ [4, 6, 9, 11] then 30 else 31

/-- Days from the first day of the year 0 to a date. -/
def dayNumber (y m d : Nat) : Nat :=
  let leapDays := if y = 0 then 0 else (y - 1) / 4 - (y - 1) / 100 + (y - 1) / 400 + 1
  365 * y + leapDays + ((List.range' 1 (m - 1)).map (daysInMonth y)).foldl (· + ·) 0 + (d - 1)

/-- A number of exactly `count` digits, and what follows it. -/
def digits? (count : Nat) (cs : List Char) : Option (Nat × List Char) := do
  if cs.length < count then none
  else return (← Text.natOfDigits? (cs.take count), cs.drop count)

def mark? (accepted : List Char) : List Char → Option (List Char)
  | c :: cs => if accepted.contains c then some cs else none
  | [] => none

/-- Nanoseconds after an optional point. -/
def fraction? : List Char → Option (Nat × List Char)
  | '.' :: cs =>
    let ds := cs.takeWhile Char.isDigit
    let kept := ds.take 9
    (Text.natOfDigits? kept).map fun n =>
      (n * Nat.pow 10 (9 - kept.length), cs.dropWhile Char.isDigit)
  | cs => some (0, cs)

/-- Seconds east, and what follows the offset. -/
def offset? : List Char → Option (Int × List Char)
  | 'Z' :: cs => some (0, cs)
  | 'z' :: cs => some (0, cs)
  | c :: cs => do
    let sign : Int ← if c = '+' then some 1 else if c = '-' || c = '\u2212' then some (-1) else none
    let (hours, cs) ← digits? 2 cs
    let cs ← mark? [':'] cs
    let (minutes, cs) ← digits? 2 cs
    if hours ≤ 23 && minutes ≤ 59 then some (sign * (hours * 3600 + minutes * 60 : Nat), cs) else none
  | [] => none

def parse? (text : String) : Option Instant := do
  let (year, cs) ← digits? 4 text.toList
  let (month, cs) ← digits? 2 (← mark? ['-'] cs)
  let (day, cs) ← digits? 2 (← mark? ['-'] cs)
  let (hour, cs) ← digits? 2 (← mark? ['T', 't', ' '] cs)
  let (minute, cs) ← digits? 2 (← mark? [':'] cs)
  let (second, cs) ← digits? 2 (← mark? [':'] cs)
  let (nanos, cs) ← fraction? cs
  let (offset, cs) ← offset? cs
  if cs.isEmpty && 1 ≤ month && month ≤ 12 && 1 ≤ day && day ≤ daysInMonth year month
      && hour ≤ 23 && minute ≤ 59 && second ≤ 60 then
    let leap := second = 60
    let days := dayNumber year month day
    let local_ : Nat := ((days * 24 + hour) * 60 + minute) * 60 + (if leap then 59 else second)
    return { seconds := local_ - offset, nanos := if leap then Nat.pow 10 9 + nanos else nanos }
  else none

end Instant

end ElementSync
