import ElementSync.Client.Basic
import ElementSync.Fetch.Profile
import ElementSync.Fetch.TypeOfSchema
import ElementSync.Text.Split

/-!
# Fetching records

The selected types are described and their records queried, type by type in the
order of their names. A type that cannot be described, or has too many records, is
passed over with a warning; a query that fails ends the fetch.
-/
namespace ElementSync

/-- Elements and what the user is warned about. -/
structure Fetched where
  elements : List Element := []
  warnings : List String := []

namespace Fetched

def append (a b : Fetched) : Fetched :=
  { elements := a.elements ++ b.elements, warnings := a.warnings ++ b.warnings }

end Fetched

namespace Record

def text? (r : Record) (key : String) : Option String := (r.lookup key).bind Json.string?

def recordId (r : Record) : String := (text? r idField).getD ""

/-- The name of a record, or its identifier if it has none, with an underscore for
every character that is not an ASCII letter or digit. -/
def plainName (r : Record) : String :=
  let base := ((text? r "Name").filter (· ≠ "")).getD (recordId r)
  String.ofList (base.toList.map fun c => if c.isAlphanum then c else '_')

/-- A name that is taken is extended by the identifier. -/
def elementName (taken : List String) (r : Record) : String :=
  let name := plainName r
  if taken.contains name then name ++ "_" ++ recordId r else name

/-- The names of records that come one after the other; every name given is taken. -/
def elementNames : List String → List Record → List String
  | _, [] => []
  | taken, r :: rs =>
    let name := elementName taken r
    name :: elementNames (name :: taken) rs

def toInstance (type : ObjectType Element) (r : Record) (name : String) : Instance Element where
  name := name
  type := type
  value := Values.ofRecord (Assoc.replaceByLast r "attributes")
  path := some (recordPath type.id.typeName name)

end Record

namespace RecordStream

/-- The records of a type, or nothing when there are more than `most`. A failure that
comes first counts. -/
def instances? (type : ObjectType Element) (most : Nat) (s : RecordStream) :
    Except ClientError (Option (List (Instance Element))) :=
  if most < s.records.length then .ok none
  else match s.failure with
    | some e => .error e
    | none =>
      .ok (some (List.zipWith (Record.toInstance type) s.records (Record.elementNames [] s.records)))

end RecordStream

def ObjectType.query (t : ObjectType Element) : String :=
  "SELECT " ++ ",".intercalate (t.fields.map (·.name)) ++ " FROM " ++ t.id.typeName

/-- The answers to describes, by the name asked for. -/
abbrev Descriptions := List (String × Except ClientError TypeSchema)

namespace Descriptions

def types (ds : Descriptions) : List (ObjectType Element) :=
  Text.sortBy (fun t => t.id.typeName)
    (ds.filterMap fun (_, d) => d.toOption.map (·.toObjectType customObject))

def failed (name : String) (e : ClientError) : String :=
  "Failed to describe " ++ name ++ ": " ++ e.message

def warnings (ds : Descriptions) : List String :=
  ds.filterMap fun (name, d) => match d with
    | .ok _ => none
    | .error e => some (failed name e)

end Descriptions

namespace FetchProfile
variable {σ : Type} (p : FetchProfile) (client : Client σ)

def tooMany (type : ObjectType Element) : String :=
  "Did not retrieve instances of type " ++ type.id.typeName ++ " because it has more than "
    ++ toString p.maxInstances ++ " instances"

/-- A type and its records. -/
def fetched (type : ObjectType Element) : Option (List (Instance Element)) → Fetched
  | some records => { elements := .objectType type :: records.map .inst }
  | none => { elements := [.objectType type], warnings := [p.tooMany type] }

def fetchType (type : ObjectType Element) : Wire σ (Except Failure Fetched) := do
  match (← client.sendQuery type.query).instances? type p.maxInstances with
  | .ok records => return .ok (p.fetched type records)
  | .error e => return .error (.client e)

def fetchTypes : List (ObjectType Element) → Wire σ (Except Failure Fetched)
  | [] => return .ok {}
  | t :: ts => do
    match ← p.fetchType client t with
    | .error e => return .error e
    | .ok first => return (← fetchTypes ts).map first.append

/-- The fetch once the types are described. -/
def fetchDescribed (ds : Descriptions) : Wire σ (Except Failure Fetched) := do
  return (← p.fetchTypes client ds.types).map ({ warnings := ds.warnings : Fetched }).append

def fetchRecords (maxDescribes : Nat) : Wire σ (Except Failure Fetched) := do
  match p.selection with
  | none => return .ok {}
  | some selection =>
    match ← Wire.call client.listTypes with
    | .error e => return .error (.client e)
    | .ok names =>
      let names := Text.sort (names.filter selection.includes)
      p.fetchDescribed client (← client.describeAll names maxDescribes)

/-- A step of a fetch that is guarded by a feature. Its failure is one warning. -/
def safely (feature warning : String) (step : Wire σ (Except Failure Fetched)) :
    Wire σ Fetched := do
  if p.isFeatureEnabled feature then
    match ← step with
    | .ok r => return r
    | .error _ => return { warnings := [warning] }
  else return {}

end FetchProfile

end ElementSync
