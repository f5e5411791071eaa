import ElementSync.Toml.Basic

/-!
# Tables under construction

The statements of a document fill nested tables. A table may be opened by its
header once. Headers of tables below it and dotted keys bring it about without
opening it; what a dotted key brought about no header opens, and what a header
opened no dotted key enters.
-/
namespace ElementSync.Toml

/-- How a table came about. -/
inductive Origin where
  | header
  | innerHeader
  | dottedKey
deriving DecidableEq

inductive Node where
  | value (v : Toml)
  | table (origin : Origin) (entries : List (String × Node))
  /-- Tables that double-bracket headers add one after the other. -/
  | tables (items : List (List (String × Node)))

abbrev Entries := Assoc String Node

mutual
def Node.toToml : Node → Toml
  | .value v => v
  | .table _ entries => .table (Node.entriesToToml entries)
  | .tables items => .array (Node.itemsToToml items)

def Node.entriesToToml : List (String × Node) → List (String × Toml)
  | [] => []
  | (k, n) :: es => (k, n.toToml) :: Node.entriesToToml es

def Node.itemsToToml : List (List (String × Node)) → List Toml
  | [] => []
  | es :: rest => .table (Node.entriesToToml es) :: Node.itemsToToml rest
end

/-- An edit of a table, which sees how the table came about. -/
abbrev Edit := Origin → Entries → Option Entries

/-- Edits the table at the end of a path; tables that are missing on the way come
about. The last table of an array stands for the array. -/
def editAt (made : Origin) (edit : Edit) : List String → Edit
  | [] => edit
  | k :: path => fun _ es => match es.lookup k with
    | none => do return Assoc.put es k (.table made (← editAt made edit path made []))
    | some (.value _) => none
    | some (.table origin inner) =>
      if made = .dottedKey && origin = .header then none
      else do return Assoc.put es k (.table origin (← editAt made edit path origin inner))
    | some (.tables items) => match items.reverse with
      | [] => none
      | last :: earlier => do
        return Assoc.put es k (.tables (((← editAt made edit path .header last) :: earlier).reverse))

/-- Opens the table of a header. -/
def openTable (key : String) : Edit := fun _ es => match es.lookup key with
  | none => some (Assoc.put es key (.table .header []))
  | some (.table .innerHeader inner) => some (Assoc.put es key (.table .header inner))
  | _ => none

def addTable (key : String) : Edit := fun _ es => match es.lookup key with
  | none => some (Assoc.put es key (.tables [[]]))
  | some (.tables items) => some (Assoc.put es key (.tables (items ++ [[]])))
  | _ => none

/-- Writes a value; behind a dotted path, into a table that dotted keys made. -/
def setValue (isDotted : Bool) (key : String) (v : Toml) : Edit := fun origin es =>
  if isDotted != (origin = .dottedKey) then none
  else if Assoc.hasKey es key then none
  else some (Assoc.put es key (.value v))

/-- Writes a value under a key, which names the tables on the way. -/
def setKey (key : List String) (v : Toml) : Edit := fun origin es => do
  let last ← key.getLast?
  editAt .dottedKey (setValue (1 < key.length) last v) key.dropLast origin es

/-- A table in braces: each key once. -/
def closedTable? (statements : List (List String × Toml)) : Option (List (String × Toml)) := do
  let es ← statements.foldlM (fun es (key, v) => setKey key v .header es) []
  return Node.entriesToToml es

end ElementSync.Toml
