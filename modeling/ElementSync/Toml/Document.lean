import ElementSync.Toml.Value

/-!
# Documents

A document is a list of lines: headers, which name the table that the lines behind
them fill, and keys with their values.
-/
namespace ElementSync.Toml

inductive Statement where
  | header (key : List String)
  | arrayHeader (key : List String)
  | entry (key : List String) (v : Toml)

/-- Blanks and a comment up to the end of a line, which is taken. -/
def readLineRest (cs : List Char) : Option (List Char) :=
  let rest := match cs.dropWhile isBlank with
    | '#' :: comment => comment.dropWhile isPlain
    | cs => cs
  if rest.isEmpty then some [] else lineEnd? rest

def readStatement (cs : List Char) : Option (Statement × List Char) :=
  match cs with
  | '[' :: '[' :: cs => do
    let (key, rest) ← readKey (cs.length + 1) cs
    let (']' :: ']' :: rest) := rest | none
    return (.arrayHeader key, rest)
  | '[' :: cs => do
    let (key, rest) ← readKey (cs.length + 1) cs
    let (']' :: rest) := rest | none
    return (.header key, rest)
  | cs => do
    let (key, rest) ← readKey (cs.length + 1) cs
    let ('=' :: rest) := rest | none
    let (v, rest) ← readValue (rest.length + 1) (rest.dropWhile isBlank)
    return (.entry key v, rest)

def readStatements : Nat → List Char → Option (List Statement)
  | 0, _ => none
  | fuel + 1, cs => do
    match ← skipLines false cs with
    | [] => return []
    | cs =>
      let (s, rest) ← readStatement cs
      return s :: (← readStatements fuel (← readLineRest rest))

/-- The root table and the path of the table that entries go to. -/
structure Draft where
  root : Entries := []
  current : List String := []

namespace Draft

def step (d : Draft) : Statement → Option Draft
  | .header key => do
    return { root := ← header openTable key, current := key }
  | .arrayHeader key => do
    return { root := ← header addTable key, current := key }
  | .entry key v => do
    return { d with root := ← editAt .innerHeader (setKey key v) d.current .header d.root }
where
  header (edit : String → Edit) (key : List String) : Option Entries := do
    editAt .innerHeader (edit (← key.getLast?)) key.dropLast .header d.root

end Draft

/-- The root table of a document. A byte order mark at its start does not count. -/
def parse? (text : String) : Option (Assoc String Toml) := do
  let cs := match text.toList with
    | '\ufeff' :: cs => cs
    | cs => cs
  let d ← (← readStatements (cs.length + 1) cs).foldlM Draft.step {}
  return Node.entriesToToml d.root

end ElementSync.Toml
