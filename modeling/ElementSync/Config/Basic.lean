import ElementSync.Change.Basic
import ElementSync.Pattern.Meaning

/-!
# Configuration

What is fetched, how the client is called and what may be deployed. A
configuration is checked once; the first setting at fault is reported by its path.
-/
namespace ElementSync

/-- Record types by patterns on their names. -/
structure DataSettings where
  included : List String := []
  excluded : List String := []
deriving DecidableEq

structure FetchSettings where
  maxInstances : Option Nat := none
  features : Assoc String Bool := []
  warnings : Assoc String Bool := []
  data : Option DataSettings := none
deriving DecidableEq

structure ClientSettings where
  maxDescribes : Nat := 10
deriving DecidableEq

structure DeploySettings where
  /-- The actions enabled for each type; no types at all means no restriction. -/
  types : Assoc String (List Action) := []
deriving DecidableEq

structure Config where
  fetch : FetchSettings := {}
  client : ClientSettings := {}
  deploy : DeploySettings := {}
deriving DecidableEq

inductive ConfigError where
  | unreadable
  | invalid (path reason : String)
  | pattern (path : String)
deriving DecidableEq

namespace ConfigError

def path? : ConfigError → Option String
  | unreadable => none
  | invalid path _ => some path
  | pattern path => some path

/-- Only a setting out of range is worded here. -/
def message? : ConfigError → Option String
  | invalid path reason => some ("invalid value at " ++ path ++ ": " ++ reason)
  | _ => none

end ConfigError

/-- The patterns of a list, or the error at the first text that is none. -/
def compilePatterns (path : String) (texts : List String) :
    Except ConfigError (List (Pattern Atom)) :=
  texts.zipIdx.mapM fun (text, i) => match Pattern.parse? text with
    | some p => .ok p
    | none => .error (.pattern (path ++ "[" ++ toString i ++ "]"))

namespace DataSettings

def includedPath : String := "fetch.data.include_objects"

def excludedPath : String := "fetch.data.exclude_objects"

end DataSettings

/-- Which record types are fetched. -/
structure Selection where
  included : List (Pattern Atom)
  excluded : List (Pattern Atom)

namespace Selection

def ofSettings (s : DataSettings) : Except ConfigError Selection := do
  let included ← compilePatterns DataSettings.includedPath s.included
  let excluded ← compilePatterns DataSettings.excludedPath s.excluded
  return { included, excluded }

/-- Exclusion wins over inclusion. -/
def includes (s : Selection) (typeName : String) : Bool :=
  s.included.any (·.occursIn typeName) && !s.excluded.any (·.occursIn typeName)

end Selection

namespace Config

def checkDescribes (c : Config) : Except ConfigError Unit :=
  if c.client.maxDescribes = 0 then
    .error (.invalid "client.max_concurrent_describe" "must be at least 1")
  else .ok ()

def checkInstances (c : Config) : Except ConfigError Unit :=
  if c.fetch.maxInstances = some 0 then
    .error (.invalid "fetch.max_instances_per_type" "must be at least 1")
  else .ok ()

def checkActions (entry : String × List Action) : Except ConfigError Unit :=
  if entry.2.isEmpty then
    .error (.invalid ("deploy.types." ++ entry.1) "at least one action must be enabled")
  else .ok ()

def validate (c : Config) : Except ConfigError Unit := do
  c.checkDescribes
  c.checkInstances
  let _ ← c.fetch.data.mapM Selection.ofSettings
  c.deploy.types.forM checkActions

end Config

end ElementSync
