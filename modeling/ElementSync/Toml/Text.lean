import ElementSync.Toml.Basic

/-!
# Text and keys of a document

Text stands in double quotes with escapes, or in single quotes as it is; tripled
quotes let it run over several lines. Every reader takes what is left of the
document and gives back what it leaves.
-/
namespace ElementSync.Toml

/-- Characters that text and comments may hold besides line ends. -/
def isPlain (c : Char) : Bool := c = '\t' || (' ' ≤ c && c ≠ '\x7f')

def isBlank (c : Char) : Bool := c = ' ' || c = '\t'

/-- What follows a line end. -/
def lineEnd? : List Char → Option (List Char)
  | '\n' :: cs => some cs
  | '\r' :: '\n' :: cs => some cs
  | _ => none

def hexDigit? (c : Char) : Option Nat :=
  if c.isDigit then some (c.toNat - '0'.toNat)
  else if 'a' ≤ c && c ≤ 'f' then some (c.toNat - 'a'.toNat + 10)
  else if 'A' ≤ c && c ≤ 'F' then some (c.toNat - 'A'.toNat + 10)
  else none

/-- A character by its number in `count` hexadecimal digits. -/
def readCodePoint (count : Nat) (cs : List Char) : Option (Char × List Char) := do
  let digits := cs.take count
  let n ← digits.foldlM (fun n c => (hexDigit? c).map (16 * n + ·)) 0
  if digits.length = count && n.isValidChar then some (Char.ofNat n, cs.drop count) else none

def simpleEscape? : Char → Option Char
  | 'b' => some '\x08'
  | 't' => some '\t'
  | 'n' => some '\n'
  | 'f' => some '\x0c'
  | 'r' => some '\r'
  | '"' => some '"'
  | '\\' => some '\\'
  | _ => none

/-- What follows a backslash. -/
def readEscape : List Char → Option (Char × List Char)
  | 'u' :: cs => readCodePoint 4 cs
  | 'U' :: cs => readCodePoint 8 cs
  | c :: cs => (simpleEscape? c).map (·, cs)
  | [] => none

/-- Text after a double quote, the closing quote taken. -/
def readBasic : Nat → List Char → Option (List Char × List Char)
  | 0, _ => none
  | _, '"' :: cs => some ([], cs)
  | fuel + 1, '\\' :: cs => do
    let (c, cs) ← readEscape cs
    let (text, rest) ← readBasic fuel cs
    return (c :: text, rest)
  | fuel + 1, c :: cs =>
    if isPlain c then (readBasic fuel cs).map fun (text, rest) => (c :: text, rest) else none
  | _, [] => none

/-- Text after a single quote, the closing quote taken. -/
def readLiteral : List Char → Option (List Char × List Char)
  | [] => none
  | c :: cs =>
    if c = '\'' then some ([], cs)
    else if isPlain c then (readLiteral cs).map fun (text, rest) => (c :: text, rest)
    else none

/-- What is left when a backslash ends a line: blanks and line ends go, too. -/
def skipFold (cs : List Char) : Option (List Char) :=
  (lineEnd? (cs.dropWhile isBlank)).map fun cs => go cs.length cs
where
  go : Nat → List Char → List Char
    | 0, cs => cs
    | fuel + 1, cs => match lineEnd? cs with
      | some cs => go fuel cs
      | none => match cs with
        | c :: rest => if isBlank c then go fuel rest else cs
        | [] => []

/-- The end of text in tripled quotes: of up to five quotes the last three close it. -/
def closing? (quote : Char) (cs : List Char) : Option (List Char × List Char) :=
  let n := (cs.takeWhile (· = quote)).length
  if n < 3 then none
  else
    let kept := min (n - 3) 2
    some (List.replicate kept quote, cs.drop (kept + 3))

/-- Text after tripled double quotes; line ends become newlines. -/
def readLongBasic : Nat → List Char → Option (List Char × List Char)
  | 0, _ => none
  | fuel + 1, cs => match closing? '"' cs with
    | some r => some r
    | none => match lineEnd? cs with
      | some cs => (readLongBasic fuel cs).map fun (text, rest) => ('\n' :: text, rest)
      | none => match cs with
        | [] => none
        | '\\' :: cs => match skipFold cs with
          | some cs => readLongBasic fuel cs
          | none => do
            let (c, cs) ← readEscape cs
            let (text, rest) ← readLongBasic fuel cs
            return (c :: text, rest)
        | c :: cs =>
          if isPlain c then (readLongBasic fuel cs).map fun (text, rest) => (c :: text, rest)
          else none

/-- Text after tripled single quotes; line ends become newlines. -/
def readLongLiteral : Nat → List Char → Option (List Char × List Char)
  | 0, _ => none
  | fuel + 1, cs => match closing? '\'' cs with
    | some r => some r
    | none => match lineEnd? cs with
      | some cs => (readLongLiteral fuel cs).map fun (text, rest) => ('\n' :: text, rest)
      | none => match cs with
        | [] => none
        | c :: cs =>
          if isPlain c then (readLongLiteral fuel cs).map fun (text, rest) => (c :: text, rest)
          else none

/-- A line end right behind the opening quotes does not count. -/
def afterOpening (cs : List Char) : List Char := (lineEnd? cs).getD cs

def readText (cs : List Char) : Option (String × List Char) :=
  let chars : Option (List Char × List Char) := match cs with
    | '"' :: '"' :: '"' :: cs => readLongBasic (cs.length + 1) (afterOpening cs)
    | '"' :: cs => readBasic (cs.length + 1) cs
    | '\'' :: '\'' :: '\'' :: cs => readLongLiteral (cs.length + 1) (afterOpening cs)
    | '\'' :: cs => readLiteral cs
    | _ => none
  chars.map fun (text, rest) => (String.ofList text, rest)

def isBareKeyChar (c : Char) : Bool := c.isAlphanum || c = '-' || c = '_'

def readSimpleKey (cs : List Char) : Option (String × List Char) :=
  match cs with
  | '"' :: rest => (readBasic (rest.length + 1) rest).map fun (k, rest) => (String.ofList k, rest)
  | '\'' :: rest => (readLiteral rest).map fun (k, rest) => (String.ofList k, rest)
  | cs =>
    let key := cs.takeWhile isBareKeyChar
    if key.isEmpty then none else some (String.ofList key, cs.dropWhile isBareKeyChar)

/-- The parts of a dotted key; blanks around them are taken. -/
def readKey : Nat → List Char → Option (List String × List Char)
  | 0, _ => none
  | fuel + 1, cs => do
    let (part, rest) ← readSimpleKey (cs.dropWhile isBlank)
    match rest.dropWhile isBlank with
    | '.' :: rest =>
      let (parts, rest) ← readKey fuel rest
      return (part :: parts, rest)
    | rest => return ([part], rest)

end ElementSync.Toml
