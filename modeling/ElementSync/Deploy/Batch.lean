import ElementSync.Client.Basic
import ElementSync.Reference.Resolver

/-!
# Deploying a batch

All changes go out in one call, resolved. What the client reports as applied is
matched to the changes by id; reported are the changes as they were given, with
the identifier that the client assigned.
-/
namespace ElementSync.Deploy

/-- Takes over an identifier, unless the report holds a reference instead. -/
def withAssignedId (change applied : RecordChange) : RecordChange :=
  match applied.data.get? idField with
  | none => change
  | some (.reference _) => change
  | some v => change.mapData (·.set idField v)

/-- Each id is matched once, by its first report; of several changes with one id
the last counts. -/
def matchReports (changes : List RecordChange) : List RecordChange → List RecordChange
  | [] => []
  | r :: reports => match changes.reverse.find? (·.id = r.id) with
    | some c => withAssignedId c r :: matchReports (changes.filter (·.id ≠ r.id)) reports
    | none => matchReports changes reports

variable {σ : Type} (client : Client σ) (resolver : Resolver)

def batch (changes : List RecordChange) : Wire σ DeployResult := do
  match ← client.sendBatch (changes.map resolver.resolveChange) with
  | .done r => return { r with applied := matchReports changes r.applied }
  | .failed e => return .failed changes e
  | .crashed text => return .failed changes (.ofCrash text)

end ElementSync.Deploy
