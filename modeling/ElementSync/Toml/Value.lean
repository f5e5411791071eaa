import ElementSync.Toml.Number
import ElementSync.Toml.Tables

/-!
# Values of a document

Arrays may run over several lines, with comments and a comma at the end. A table
in braces stands on one line and is closed to later statements.
-/
namespace ElementSync.Toml

/-- What follows blanks, line ends and comments. -/
def skipLines : Bool → List Char → Option (List Char)
  | _, '\n' :: cs => skipLines false cs
  | _, '\r' :: '\n' :: cs => skipLines false cs
  | true, c :: cs => if isPlain c then skipLines true cs else none
  | true, [] => some []
  | false, ' ' :: cs => skipLines false cs
  | false, '\t' :: cs => skipLines false cs
  | false, '#' :: cs => skipLines true cs
  | false, cs => some cs

mutual

def readValue : Nat → List Char → Option (Toml × List Char)
  | 0, _ => none
  | fuel + 1, cs => match cs with
    | 't' :: 'r' :: 'u' :: 'e' :: rest => some (.bool true, rest)
    | 'f' :: 'a' :: 'l' :: 's' :: 'e' :: rest => some (.bool false, rest)
    | '[' :: rest => do
      let (items, rest) ← readItems fuel (← skipLines false rest)
      return (.array items, rest)
    | '{' :: rest => match rest.dropWhile isBlank with
      | '}' :: rest => some (.table [], rest)
      | rest => do
        let (statements, rest) ← readEntries fuel rest
        return (.table (← closedTable? statements), rest)
    | '"' :: _ => (readText cs).map fun (s, rest) => (.string s, rest)
    | '\'' :: _ => (readText cs).map fun (s, rest) => (.string s, rest)
    | cs => readNumber cs

/-- The items of an array up to its closing bracket, which is taken. -/
def readItems : Nat → List Char → Option (List Toml × List Char)
  | 0, _ => none
  | fuel + 1, cs => match cs with
    | ']' :: rest => some ([], rest)
    | cs => do
      let (v, rest) ← readValue fuel cs
      match ← skipLines false rest with
      | ',' :: rest =>
        let (vs, rest) ← readItems fuel (← skipLines false rest)
        return (v :: vs, rest)
      | ']' :: rest => return ([v], rest)
      | _ => none

/-- The entries of a table in braces up to its closing brace, which is taken. -/
def readEntries : Nat → List Char → Option ((List (List String × Toml)) × List Char)
  | 0, _ => none
  | fuel + 1, cs => do
    let (key, rest) ← readKey (cs.length + 1) cs
    let ('=' :: rest) := rest | none
    let (v, rest) ← readValue fuel (rest.dropWhile isBlank)
    match rest.dropWhile isBlank with
    | ',' :: rest =>
      let (more, rest) ← readEntries fuel rest
      return ((key, v) :: more, rest)
    | '}' :: rest => return ([(key, v)], rest)
    | _ => none

end

end ElementSync.Toml
