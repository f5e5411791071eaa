import ElementSync.Client.Basic
import ElementSync.Text.Split

/-!
# An external system in memory

It knows its schemas and records, gives identifiers to added records, and fails
the changes, batches and describes that it was told to fail.
-/
namespace ElementSync

/-- Fails the changes of one element, of one action or of all. -/
structure FailureRule where
  id : ElementId
  action : Option Action
  message : String

structure InMemory where
  schemas : Assoc String TypeSchema := []
  records : Assoc String (List Record) := []
  failures : List FailureRule := []
  failingDescribes : List String := []
  batchFailure : Option String := none
  crash : Option String := none

namespace InMemory

/-- The identifier of the `n`-th record that was given one. -/
def recordId (n : Nat) : String :=
  let ds := Nat.toDigits 10 n
  "a0M" ++ String.ofList (List.replicate (12 - ds.length) '0' ++ ds)

variable (m : InMemory)

def typeNames : List String :=
  Text.sort (Assoc.keys m.schemas ++ m.failingDescribes).eraseDups

def describe (name : String) : Except ClientError TypeSchema :=
  if m.failingDescribes.contains name then
    .error (.api "INVALID_TYPE" ("sObject type '" ++ name ++ "' is not supported"))
  else match m.schemas.lookup name with
    | some schema => .ok schema
    | none => .error (.unknownType name)

def failure? (c : RecordChange) : Option FailureRule :=
  m.failures.find? fun r => r.id = c.id && r.action.all (· = c.action)

def FailureRule.finding (r : FailureRule) (c : RecordChange) : Finding :=
  .error c.id r.message
    (c.action.word ++ " of " ++ c.id.fullName ++ " failed: " ++ r.message)

/-- Applies one change; the state counts the identifiers given so far. -/
def applyChange (c : RecordChange) : StateM Nat DeployResult := do
  match m.failure? c with
  | some r => return { findings := [FailureRule.finding r c] }
  | none =>
    if c.action = .add && (c.data.get? idField).isNone then
      modify (· + 1)
      return { applied := [c.mapData (·.set idField (.text (recordId (← get))))] }
    else return { applied := [c] }

def deploy (cs : List RecordChange) : StateM Nat BatchAnswer :=
  match m.crash, m.batchFailure with
  | some text, _ => return .crashed (some text)
  | none, some code => return .failed (.api code "batch rejected")
  | none, none => return .done ((← cs.mapM m.applyChange).foldl DeployResult.append {})

/-- The type that a query reads from. -/
def queriedType (query : String) : String :=
  match Text.afterLast? " FROM ".toList query.toList with
  | some rest => String.ofList (Text.firstWord rest)
  | none => ""

def client : Client Nat where
  listTypes := return .ok m.typeNames
  describe name := return m.describe name
  deploy := m.deploy
  query text := return { records := (m.records.lookup (queriedType text)).getD [] }

end InMemory

end ElementSync
