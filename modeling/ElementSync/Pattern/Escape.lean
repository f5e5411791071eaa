import ElementSync.Pattern.Tree
import ElementSync.Unicode.Property

/-!
# Reading characters and escapes

Readers take what is left of the text and give back what they leave of it. With
the verbose flag, blanks and comments are skipped between characters.
-/
namespace ElementSync.Pattern

/-- What follows blanks and comments. -/
def skipBlanks : Bool → List Char → List Char
  | _, [] => []
  | true, c :: cs => skipBlanks (c ≠ '\n') cs
  | false, c :: cs =>
    if Text.isBlank c then skipBlanks false cs
    else if c = '#' then skipBlanks true cs
    else c :: cs

def skip (verbose : Bool) (cs : List Char) : List Char :=
  if verbose then skipBlanks false cs else cs

def isMeta (c : Char) : Bool := "\\.+*?()|[]\x7b\x7d^$#&-~".contains c

/-- Characters that may stand behind a backslash for themselves. -/
def isEscapable (c : Char) : Bool :=
  isMeta c || (c.toNat < 128 && !c.isAlphanum && c ≠ '<' && c ≠ '>')

def hexValue? (c : Char) : Option Nat :=
  if '0' ≤ c && c ≤ '9' then some (c.toNat - '0'.toNat)
  else if 'a' ≤ c && c ≤ 'f' then some (c.toNat - 'a'.toNat + 10)
  else if 'A' ≤ c && c ≤ 'F' then some (c.toNat - 'A'.toNat + 10)
  else none

def charOf? (n : Nat) : Option Char := if n.isValidChar then some (Char.ofNat n) else none

/-- Exactly `count` hexadecimal digits, read onto `n`. -/
def readHexDigits (verbose : Bool) : Nat → Nat → List Char → Option (Nat × List Char)
  | 0, n, cs => some (n, cs)
  | count + 1, n, cs => match skip verbose cs with
    | c :: cs => do readHexDigits verbose count (16 * n + (← hexValue? c)) cs
    | [] => none

/-- The characters up to a closing brace, which is taken too. -/
def readBraced (verbose : Bool) (cs : List Char) : Option (List Char × List Char) :=
  go cs.length cs
where
  go : Nat → List Char → Option (List Char × List Char)
    | fuel, cs => match skip verbose cs, fuel with
      | [], _ => none
      | '}' :: cs, _ => some ([], cs)
      | _, 0 => none
      | c :: cs, fuel + 1 => (go fuel cs).map fun (body, rest) => (c :: body, rest)

def readHex (verbose : Bool) (digits : Nat) (cs : List Char) : Option (Symbol × List Char) := do
  match skip verbose cs with
  | '{' :: cs =>
    let (body, rest) ← readBraced verbose cs
    if body.isEmpty then none
    let n ← body.foldlM (fun n c => (hexValue? c).map (16 * n + ·)) 0
    return (.literal (← charOf? n) false, rest)
  | cs =>
    let (n, rest) ← readHexDigits verbose digits 0 cs
    return (.literal (← charOf? n) (digits = 2), rest)

/-- The first of two parts around a mark, and the second without the mark. -/
def cutAt (mark cs : List Char) : Option (List Char × List Char) :=
  if Text.contains mark cs then
    let name := Text.before mark cs
    some (name, cs.drop (name.length + mark.length))
  else none

/-- A property by its name, or by name and value around `!=`, a colon or `=`. -/
def propertyOf? (body : List Char) : Option ((Char → Bool) × Bool) :=
  match cutAt ['!', '='] body with
  | some (name, value) => byValue name value true
  | none => match cutAt [':'] body with
    | some (name, value) => byValue name value false
    | none => match cutAt ['='] body with
      | some (name, value) => byValue name value false
      | none => (Unicode.property? (String.ofList body)).map (·, false)
where
  byValue (name value : List Char) (negated : Bool) : Option ((Char → Bool) × Bool) :=
    (Unicode.propertyValue? (String.ofList name) (String.ofList value)).map (·, negated)

def readProperty (verbose negated : Bool) (cs : List Char) : Option (Symbol × List Char) := do
  match skip verbose cs with
  | [] => none
  | '\\' :: _ => none
  | '{' :: cs =>
    let (body, rest) ← readBraced verbose cs
    let (test, inverse) ← propertyOf? body
    return (.property test (negated != inverse), rest)
  | c :: cs => return (.property (← Unicode.property? (String.ofList [c])) negated, cs)

def isBoundaryLetter (c : Char) : Bool := c.isAlpha || c = '-'

/-- The name of a word boundary, up to a brace that is taken too. -/
def readBoundaryName (verbose : Bool) (cs : List Char) : Option (List Char × List Char) :=
  go cs.length cs
where
  go : Nat → List Char → Option (List Char × List Char)
    | fuel, cs => match skip verbose cs, fuel with
      | '}' :: cs, _ => some ([], cs)
      | c :: cs, fuel + 1 =>
        if isBoundaryLetter c then (go fuel cs).map fun (body, rest) => (c :: body, rest) else none
      | _, _ => none

/-- What follows `\b`: a special boundary in braces, unless the brace starts a count. -/
def readBoundary (verbose : Bool) (cs : List Char) : Option (Symbol × List Char) := do
  match cs with
  | '{' :: rest => match skip verbose rest with
    | [] => none
    | c :: _ =>
      if !isBoundaryLetter c then return (.anchor .wordBoundary, cs)
      let (name, rest) ← readBoundaryName verbose rest
      match String.ofList name with
      | "start" => return (.anchor .wordStart, rest)
      | "end" => return (.anchor .wordEnd, rest)
      | "start-half" => return (.anchor .wordStartHalf, rest)
      | "end-half" => return (.anchor .wordEndHalf, rest)
      | _ => none
  | cs => return (.anchor .wordBoundary, cs)

/-- What follows a backslash. -/
def readEscape (verbose : Bool) : List Char → Option (Symbol × List Char)
  | [] => none
  | 'x' :: cs => readHex verbose 2 cs
  | 'u' :: cs => readHex verbose 4 cs
  | 'U' :: cs => readHex verbose 8 cs
  | 'p' :: cs => readProperty verbose false cs
  | 'P' :: cs => readProperty verbose true cs
  | 'd' :: cs => some (.shorthand .digit false, cs)
  | 'D' :: cs => some (.shorthand .digit true, cs)
  | 's' :: cs => some (.shorthand .space false, cs)
  | 'S' :: cs => some (.shorthand .space true, cs)
  | 'w' :: cs => some (.shorthand .word false, cs)
  | 'W' :: cs => some (.shorthand .word true, cs)
  | 'a' :: cs => some (.literal '\x07' false, cs)
  | 'f' :: cs => some (.literal '\x0c' false, cs)
  | 't' :: cs => some (.literal '\t' false, cs)
  | 'n' :: cs => some (.literal '\n' false, cs)
  | 'r' :: cs => some (.literal '\r' false, cs)
  | 'v' :: cs => some (.literal '\x0b' false, cs)
  | 'A' :: cs => some (.anchor .textStart, cs)
  | 'z' :: cs => some (.anchor .textEnd, cs)
  | 'b' :: cs => readBoundary verbose cs
  | 'B' :: cs => some (.anchor .notWordBoundary, cs)
  | '<' :: cs => some (.anchor .wordStart, cs)
  | '>' :: cs => some (.anchor .wordEnd, cs)
  | c :: cs => if isEscapable c then some (.literal c false, cs) else none

end ElementSync.Pattern
