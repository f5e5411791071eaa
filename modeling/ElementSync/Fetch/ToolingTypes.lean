import ElementSync.Fetch.Records

/-!
# Tooling types

Two types that describe installed packages are fetched besides the selected ones.
If one of them cannot be described, neither is added and the user is warned.
-/
namespace ElementSync.ToolingTypes

def typeNames : List String := ["SubscriberPackage", "InstalledSubscriberPackage"]

def metadataType : String := "ToolingObject"

def feature : String := "describeSObjects"

def filterName : String := "fetchToolingTypes"

def warning : String :=
  "Encountered an error while trying to fetch info about the installed packages"

def failure (name : String) (e : ClientError) : Failure :=
  .filter filterName ("failed to describe tooling object " ++ name ++ ": " ++ e.message)

/-- All types or the first failure. -/
def ofDescriptions (ds : Descriptions) : Except Failure Fetched := do
  let types ← ds.mapM fun (name, d) => match d with
    | .ok schema => .ok (schema.toObjectType metadataType)
    | .error e => .error (failure name e)
  return { elements := (Text.sortBy (fun t => t.id.typeName) types).map .objectType }

def fetch {σ : Type} (client : Client σ) (maxDescribes : Nat) :
    Wire σ (Except Failure Fetched) := do
  return ofDescriptions (← client.describeAll typeNames maxDescribes)

end ElementSync.ToolingTypes
