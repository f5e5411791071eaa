import ElementSync.Change.Basic
import ElementSync.Change.Finding
import ElementSync.Client.Error
import ElementSync.Client.Schema

/-!
# The external system

A client is any machine that answers calls; its state `σ` stays open. A session
holds the state of the client together with the trace of the calls made to it.
-/
namespace ElementSync

/-- What the external system applied, and what it reported about the rest. -/
structure DeployResult where
  applied : List RecordChange := []
  findings : List Finding := []

namespace DeployResult

/-- Nothing was applied, and every change has failed for one reason. -/
def failed (changes : List RecordChange) (e : ClientError) : DeployResult :=
  { findings := changes.map fun c => .error c.id e.userMessage e.message }

def append (r s : DeployResult) : DeployResult :=
  { applied := r.applied ++ s.applied, findings := r.findings ++ s.findings }

def appliedIds (r : DeployResult) : List ElementId := r.applied.map RecordChange.id

def hasFindings (r : DeployResult) : Bool := !r.findings.isEmpty

end DeployResult

/-- How a client answers a batch of changes. A crash may come with a text. -/
inductive BatchAnswer where
  | done (r : DeployResult)
  | failed (e : ClientError)
  | crashed (text : Option String)

/-- The records of a query in order, and the error that ends them, if one does. -/
structure RecordStream where
  records : List Record := []
  failure : Option ClientError := none

structure Client (σ : Type) where
  listTypes : StateM σ (Except ClientError (List String))
  describe : String → StateM σ (Except ClientError TypeSchema)
  deploy : List RecordChange → StateM σ BatchAnswer
  query : String → StateM σ RecordStream

/-- The calls that a client has received, and the hooks that filters noted. -/
structure Trace where
  batches : List (List RecordChange) := []
  describes : List String := []
  queries : List String := []
  maxInFlight : Nat := 0
  hooks : List String := []

structure Session (σ : Type) where
  state : σ
  trace : Trace := {}

/-- Programs that call a client with state `σ`. -/
abbrev Wire (σ : Type) := StateM (Session σ)

namespace Wire
variable {σ α : Type}

def note (f : Trace → Trace) : Wire σ Unit := modify fun s => { s with trace := f s.trace }

def call (step : StateM σ α) : Wire σ α := fun s =>
  let (a, state) := step s.state
  (a, { s with state })

def noteHook (hook : String) : Wire σ Unit := note fun t => { t with hooks := t.hooks ++ [hook] }

end Wire

namespace Client
variable {σ : Type} (client : Client σ)

def sendBatch (records : List RecordChange) : Wire σ BatchAnswer := do
  Wire.note fun t => { t with batches := t.batches ++ [records] }
  Wire.call (client.deploy records)

def sendQuery (text : String) : Wire σ RecordStream := do
  Wire.note fun t => { t with queries := t.queries ++ [text] }
  Wire.call (client.query text)

/-- Describes types, at most `limit` of them at a time. -/
def describeAll (names : List String) (limit : Nat) :
    Wire σ (List (String × Except ClientError TypeSchema)) := do
  Wire.note fun t => { t with maxInFlight := max t.maxInFlight (min (max limit 1) names.length) }
  names.mapM fun name => do
    Wire.note fun t => { t with describes := t.describes ++ [name] }
    return (name, ← Wire.call (client.describe name))

end Client

end ElementSync
