import ElementSync.Text.Split
import ElementSync.Time.Instant
import ElementSync.Toml.Text

/-!
# Numbers, dates and times of a document

Underscores may stand between digits. Integers have no leading zeros and fit 64
bits; with a base mark they have no sign.
-/
namespace ElementSync.Toml

/-- Digits with single underscores between them. -/
def readDigits (isDigit : Char → Bool) : List Char → Option (List Char × List Char)
  | [] => none
  | c :: cs =>
    if isDigit c then
      let next := match cs with
        | '_' :: cs' => readDigits isDigit cs'
        | cs => readDigits isDigit cs
      some (match next with
        | some (digits, rest) => (c :: digits, rest)
        | none => ([c], cs))
    else none

def readSign : List Char → Bool × List Char
  | '-' :: cs => (true, cs)
  | '+' :: cs => (false, cs)
  | cs => (false, cs)

/-- A decimal integer, which is a zero or starts with another digit. -/
def readDecimal (cs : List Char) : Option (Int × List Char) := do
  let (negative, cs) := readSign cs
  let (digits, rest) ← match cs with
    | '0' :: cs => some (['0'], cs)
    | cs => readDigits Char.isDigit cs
  let n ← Text.natOfDigits? digits
  return (if negative then -n else n, rest)

def fitsWord (n : Int) : Bool := -(Nat.pow 2 63 : Int) ≤ n && n < Nat.pow 2 63

def readBased (base : Nat) (isDigit : Char → Bool) (cs : List Char) : Option (Int × List Char) := do
  let (digits, rest) ← readDigits isDigit cs
  let n ← digits.foldlM (fun n c => (hexDigit? c).map (base * n + ·)) 0
  return (n, rest)

def readInteger (cs : List Char) : Option (Toml × List Char) := do
  let (n, rest) ← match cs with
    | '0' :: 'x' :: cs => readBased 16 (fun c => (hexDigit? c).isSome) cs
    | '0' :: 'o' :: cs => readBased 8 (fun c => '0' ≤ c && c ≤ '7') cs
    | '0' :: 'b' :: cs => readBased 2 (fun c => c = '0' || c = '1') cs
    | cs => readDecimal cs
  if fitsWord n then return (.int n, rest) else none

def readExponent (cs : List Char) : Option (List Char) := do
  let cs ← Instant.mark? ['e', 'E'] cs
  (readDigits Char.isDigit (readSign cs).2).map (·.2)

def readFraction (cs : List Char) : Option (List Char) := do
  let cs ← Instant.mark? ['.'] cs
  (readDigits Char.isDigit cs).map (·.2)

/-- What follows a float. -/
def readFloat (cs : List Char) : Option (List Char) :=
  match (readSign cs).2 with
  | 'i' :: 'n' :: 'f' :: rest => some rest
  | 'n' :: 'a' :: 'n' :: rest => some rest
  | _ => do
    let (_, rest) ← readDecimal cs
    match readFraction rest with
    | some rest => return (readExponent rest).getD rest
    | none => readExponent rest

def readTime (cs : List Char) : Option (List Char) := do
  let (hour, cs) ← Instant.digits? 2 cs
  let (minute, cs) ← Instant.digits? 2 (← Instant.mark? [':'] cs)
  let (second, cs) ← Instant.digits? 2 (← Instant.mark? [':'] cs)
  if hour ≤ 23 && minute ≤ 59 && second ≤ 60 then return (readFraction cs).getD cs else none

def readOffset : List Char → Option (List Char)
  | 'Z' :: cs => some cs
  | 'z' :: cs => some cs
  | cs => do
    let (hour, cs) ← Instant.digits? 2 (← Instant.mark? ['+', '-'] cs)
    let (minute, cs) ← Instant.digits? 2 (← Instant.mark? [':'] cs)
    if hour ≤ 23 && minute ≤ 59 then some cs else none

/-- What follows a date, which a time of day and an offset may follow. -/
def readDate (cs : List Char) : Option (List Char) := do
  let (year, cs) ← Instant.digits? 4 cs
  let (month, cs) ← Instant.digits? 2 (← Instant.mark? ['-'] cs)
  let (day, cs) ← Instant.digits? 2 (← Instant.mark? ['-'] cs)
  if 1 ≤ month && month ≤ 12 && 1 ≤ day && day ≤ Instant.daysInMonth year month then
    return match (Instant.mark? ['T', 't', ' '] cs).bind readTime with
      | some rest => (readOffset rest).getD rest
      | none => cs
  else none

/-- The longest of the forms that start with a digit or a sign. -/
def readNumber (cs : List Char) : Option (Toml × List Char) :=
  match readDate cs <|> readTime cs <|> readFloat cs with
  | some rest => some (.other, rest)
  | none => readInteger cs

end ElementSync.Toml
