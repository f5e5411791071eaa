import ElementSync.Client.InMemory

/-!
# Scripted faults

A script stands in front of a client. It lets single deploy calls fail, crash or
report something else than what happened, and cuts queries short.
-/
namespace ElementSync

/-- Edits of the changes that a deploy call reports as applied, in this order. -/
structure ReportEdit where
  /-- A key without a value is removed. -/
  set : List (ElementId × String × Option (Value Element)) := []
  twice : Bool := false
  extra : List RecordChange := []
  reverse : Bool := false

inductive Fault where
  | fail (e : ClientError)
  | crash (text : Option String)
  | edit (e : ReportEdit)

structure Script where
  listsNothing : Bool := false
  listFailure : Option ClientError := none
  /-- By the type that a query ends in: how many records it yields, and the error. -/
  queryFailures : List (String × Nat × ClientError) := []
  /-- The `k`-th fault meets the `k`-th deploy call. -/
  faults : List (Option Fault) := []

namespace ReportEdit

def setOn (applied : List RecordChange) (s : ElementId × String × Option (Value Element)) :
    List RecordChange :=
  let (id, key, v) := s
  applied.map fun c =>
    if c.id = id then
      c.mapData fun i => match v with
        | some v => i.set key v
        | none => i.erase key
    else c

def apply (e : ReportEdit) (applied : List RecordChange) : List RecordChange :=
  let edited := e.set.foldl setOn applied
  let all := (if e.twice then edited ++ edited else edited) ++ e.extra
  if e.reverse then all.reverse else all

end ReportEdit

namespace Script

/-- The client's own state, the deploy calls received and those passed on. -/
structure State (σ : Type) where
  inner : σ
  calls : Nat := 0
  passed : Nat := 0

variable {σ α : Type} (script : Script)

def lift (step : StateM σ α) : StateM (State σ) α := fun s =>
  let (a, inner) := step s.inner
  (a, { s with inner })

def pass (client : Client σ) (cs : List RecordChange) : StateM (State σ) BatchAnswer := do
  modify fun s => { s with passed := s.passed + 1 }
  lift (client.deploy cs)

def deploy (client : Client σ) (cs : List RecordChange) : StateM (State σ) BatchAnswer := do
  let n := (← get).calls
  modify fun s => { s with calls := n + 1 }
  match script.faults[n]?.join with
  | none => pass client cs
  | some (.fail e) => return .failed e
  | some (.crash text) => return .crashed text
  | some (.edit e) => match ← pass client cs with
    | .done r => return .done { r with applied := e.apply r.applied }
    | answer => return answer

/-- A failure takes the place of everything after the first records. -/
def cut (text : String) (stream : RecordStream) : RecordStream :=
  match script.queryFailures.find? fun f => (" FROM " ++ f.1).toList.isSuffixOf text.toList with
  | some (_, n, e) => { records := stream.records.take n, failure := some e }
  | none => stream

def client (client : Client σ) : Client (State σ) where
  listTypes :=
    if script.listsNothing then return .ok []
    else match script.listFailure with
      | some e => return .error e
      | none => lift client.listTypes
  describe name := lift (client.describe name)
  deploy := script.deploy client
  query text := return script.cut text (← lift (client.query text))

end Script

end ElementSync
