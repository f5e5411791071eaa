import ElementSync.Config.Basic
import ElementSync.Toml.Document

/-!
# Reading a configuration

Every setting has a default and unknown settings are refused. A section is a table,
or an array of its settings in their order.
-/
namespace ElementSync

namespace Toml

/-- A setting of a section, by its key or place. -/
def setting? {α : Type} (t : Toml) (key : String) (place : Nat) (read : Toml → Option α)
    (default : α) : Option α :=
  match t with
  | table entries => match entries.lookup key with
    | some v => read v
    | none => some default
  | array items => match items[place]? with
    | some v => read v
    | none => some default
  | _ => none

def knowsOnly (t : Toml) (keys : List String) : Bool :=
  match t with
  | table entries => entries.all (keys.contains ·.1)
  | _ => true

/-- A map whose values are all read alike. -/
def mapOf? {α : Type} (read : Toml → Option α) (t : Toml) : Option (Assoc String α) := do
  (← t.table?).mapM fun (k, v) => return (k, ← read v)

/-- An action by its word, or by a table whose only key is the word of the action and
whose value is empty. -/
def action? : Toml → Option Action
  | string word => Action.ofWord? word
  | table [(word, table [])] => Action.ofWord? word
  | table [(word, array [])] => Action.ofWord? word
  | _ => none

def actions? (t : Toml) : Option (List Action) := do (← t.array?).mapM action?

end Toml

def DataSettings.ofToml? (t : Toml) : Option DataSettings := do
  let included ← t.setting? "include_objects" 0 Toml.strings? []
  let excluded ← t.setting? "exclude_objects" 1 Toml.strings? []
  if t.knowsOnly ["include_objects", "exclude_objects"] then return { included, excluded }
  else none

def FetchSettings.ofToml? (t : Toml) : Option FetchSettings := do
  let maxInstances ← t.setting? "max_instances_per_type" 0 (fun v => v.count?.map some) none
  let features ← t.setting? "optional_features" 1 (Toml.mapOf? Toml.bool?) []
  let warnings ← t.setting? "warning_settings" 2 (Toml.mapOf? Toml.bool?) []
  let data ← t.setting? "data" 3 (fun v => (DataSettings.ofToml? v).map some) none
  if t.knowsOnly ["max_instances_per_type", "optional_features", "warning_settings", "data"] then
    return { maxInstances, features, warnings, data }
  else none

def ClientSettings.ofToml? (t : Toml) : Option ClientSettings := do
  let defaults : ClientSettings := {}
  let maxDescribes ← t.setting? "max_concurrent_describe" 0 Toml.count? defaults.maxDescribes
  if t.knowsOnly ["max_concurrent_describe"] then return { maxDescribes } else none

def DeploySettings.ofToml? (t : Toml) : Option DeploySettings := do
  let types ← t.setting? "types" 0 (Toml.mapOf? Toml.actions?) []
  if t.knowsOnly ["types"] then return { types } else none

namespace Config

def ofToml? (t : Toml) : Option Config := do
  let fetch ← t.setting? "fetch" 0 FetchSettings.ofToml? {}
  let client ← t.setting? "client" 1 ClientSettings.ofToml? {}
  let deploy ← t.setting? "deploy" 2 DeploySettings.ofToml? {}
  if t.knowsOnly ["fetch", "client", "deploy"] then return { fetch, client, deploy } else none

/-- A configuration from its text, checked. -/
def parse (text : String) : Except ConfigError Config :=
  match (Toml.parse? text).bind fun root => ofToml? (.table root) with
  | some c => do
    c.validate
    return c
  | none => .error .unreadable

end Config

end ElementSync
