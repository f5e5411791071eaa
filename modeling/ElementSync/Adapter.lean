import ElementSync.Change.Group
import ElementSync.Config.Basic
import ElementSync.Deploy.Approval
import ElementSync.Deploy.Batch
import ElementSync.Filter.Pipeline
import ElementSync.Reference.Weak
import ElementSync.Validation.Pipeline

/-!
# Adapters

An adapter fetches the elements of one system and deploys changes to it. Only data
records are deployed. Whatever is wrong with single changes is reported among the
findings; only a filter makes a deploy fail.
-/
namespace ElementSync

structure Adapter where
  config : Config
  profile : FetchProfile
  filters : List Filter
  validators : List Validator
  weakFields : List WeakField
  source : ElementSource

/-- What a deploy applied, in the form that changes have in the workspace, and what it
found. -/
structure Outcome where
  applied : List (Change Element) := []
  findings : List Finding := []

namespace Outcome

def hasErrors (o : Outcome) : Bool := o.findings.any Finding.isBlocking

def append (a b : Outcome) : Outcome :=
  { applied := a.applied ++ b.applied, findings := a.findings ++ b.findings }

end Outcome

/-- Types that may be deployed are checked when the configuration names some. -/
def Config.validators (c : Config) : List Validator :=
  Validator.builtIn ++
    if c.deploy.types.isEmpty then [] else [.deploySupport (.ofList c.deploy.types)]

def issueTypesOfSchemes : WeakField :=
  { typeName := IssueTypes.schemeType, field := IssueTypes.issueTypesField }

namespace Adapter

/-- An adapter that knows no elements yet. -/
def ofProfile (c : Config) (profile : FetchProfile) : Adapter where
  config := c
  profile := profile
  filters := Filter.builtIn c.client.maxDescribes
  validators := c.validators
  weakFields := [issueTypesOfSchemes]
  source := fun _ => none

def ofConfig (c : Config) : Except ConfigError Adapter := do
  c.validate
  return ofProfile c (← FetchProfile.ofSettings c.fetch)

variable {σ : Type} (a : Adapter) (client : Client σ)

def context : FilterContext := { profile := a.profile, source := a.source }

/-- The elements of the system as the filters leave them; no two have one id. -/
def fetch : Wire σ (Except Failure Fetched) := do
  match ← a.profile.fetchRecords client a.config.client.maxDescribes with
  | .error e => return .error e
  | .ok data =>
    let filtered ← Pipeline.onFetch client a.context a.filters data.elements
    match filtered.result with
    | .error e => return .error e
    | .ok warnings => match ElementGraph.ofElements filtered.left with
      | .error e => return .error (.element e)
      | .ok graph =>
        return .ok { elements := graph.elements, warnings := data.warnings ++ warnings }

def fixElements (es : List Element) : Fixes := .ofElements a.source a.weakFields es

def unsupported (c : Change Element) : Finding :=
  .error c.id "Deployment of this element is not supported"
    ("Cannot " ++ c.action.word ++ " " ++ c.id.fullName ++ ": only data records can be deployed")

/-- Sends records, approval rules in their own order. -/
def send (groupId : String) (records : List RecordChange) : Wire σ DeployResult :=
  if records.isEmpty then return {}
  else
    let context := { LookupContext.forRecords groupId records with source := a.source }
    if groupId = ChangeGroup.approval then Approval.deploy client { context } records
    else Deploy.batch client { context } records

/-- Deploys the changes of a group that the filters have prepared. -/
def deployPrepared (group : ChangeGroup) : Wire σ Outcome := do
  let records := group.instanceChanges.filter (·.data.isRecord)
  let metadata := group.instanceChanges.filter (!·.data.isRecord)
  let result ← a.send client group.id records
  return {
    applied := result.applied.map RecordChange.toChange
    findings := (group.otherChanges ++ metadata.map RecordChange.toChange).map unsupported
      ++ result.findings }

/-- Deploys one group. The adapter comes back with what its filters keep. -/
def deploy (group : ChangeGroup) : Wire σ (Adapter × Except Failure Outcome) := do
  let findings := Validation.run a.validators group.changes
  let deployable := Validation.deployable findings group.changes
  if deployable.isEmpty then return (a, .ok { findings })
  let (filters, prepared) ← Pipeline.preDeploy a.context a.filters deployable
  match prepared.result with
  | .error e => return ({ a with filters }, .error e)
  | .ok () =>
    let sent ← a.deployPrepared client { group with changes := prepared.left }
    let (filters, restored) ← Pipeline.onDeploy filters sent.applied
    return ({ a with filters }, restored.result.map fun () =>
      { applied := restored.left, findings := findings ++ sent.findings })

/-- Deploys groups in turn, up to the first that fails. -/
def deployGroups (a : Adapter) : List ChangeGroup → Wire σ (Adapter × Except Failure Outcome)
  | [] => return (a, .ok {})
  | g :: gs => do
    match ← a.deploy client g with
    | (a, .error e) => return (a, .error e)
    | (a, .ok first) =>
      let (a, rest) ← deployGroups a gs
      return (a, rest.map first.append)

def deployChanges (cs : List (Change Element)) : Wire σ (Adapter × Except Failure Outcome) :=
  a.deployGroups client (ChangeGroup.ofChanges cs)

end Adapter

end ElementSync
