import ElementSync.ChangeTimes
import ElementSync.ConditionLogic.Rules
import ElementSync.Fetch.RecordReferences
import ElementSync.Fetch.ToolingTypes
import ElementSync.IssueTypes
import ElementSync.Labels
import ElementSync.PackageDependencies

/-!
# Filters

A filter turns elements between the form they have in the system and the form they
have in the workspace. It has three hooks: on what was fetched, on changes before
they are deployed, and on the changes that were applied. What a filter takes away
before a deploy it keeps for the hook after it.
-/
namespace ElementSync

inductive Hook where
  | onFetch
  | preDeploy
  | onDeploy
deriving DecidableEq

def Hook.word : Hook → String
  | onFetch => "on_fetch"
  | preDeploy => "pre_deploy"
  | onDeploy => "on_deploy"

/-- What filters know besides the elements and changes. -/
structure FilterContext where
  profile : FetchProfile := {}
  source : ElementSource := fun _ => none

inductive Filter where
  | toolingTypes (maxDescribes : Nat)
  | recordReferences
  | conditionLogic (saved : ConditionLogic.SavedByType)
  | labels (saved : List (Change Element))
  | packageDependencies
  | issueTypes
  | changeTimes
  /-- Does nothing. -/
  | idle
  /-- Notes its hooks and fails at one of them, for trying out pipelines. -/
  | probe (label : String) (failing : Option Hook)

/-- What a hook leaves: the elements or changes, and its result. A failing hook may
have changed them, too. -/
structure Step (α β : Type) where
  left : α
  result : Except Failure β

namespace Filter
variable {σ : Type}

def name : Filter → String
  | toolingTypes _ => ToolingTypes.filterName
  | recordReferences => "instanceReferences"
  | conditionLogic _ => "cpqRulesAndConditions"
  | labels _ => Labels.filterName
  | packageDependencies => "installedPackageElements"
  | issueTypes => "issueTypeSchemeReferences"
  | changeTimes => "changedAtSingleton"
  | idle => "idle"
  | probe label _ => label

/-- A filter that failed as it was told to. -/
def probeFailure (label : String) (hook : Hook) : Failure :=
  .filter label (hook.word ++ " failed")

def probeResult {α : Type} (label : String) (failing : Option Hook) (hook : Hook) (a : α) :
    Wire σ (Except Failure α) := do
  Wire.noteHook (hook.word ++ ":" ++ label)
  return if failing = some hook then .error (probeFailure label hook) else .ok a

def onFetch (client : Client σ) (context : FilterContext) (es : List Element) :
    Filter → Wire σ (Step (List Element) (List String))
  | toolingTypes maxDescribes => do
    let r ← context.profile.safely ToolingTypes.feature ToolingTypes.warning
      (ToolingTypes.fetch client maxDescribes)
    return ⟨es ++ r.elements, .ok r.warnings⟩
  | recordReferences =>
    let n := RecordReferences.missing es
    let isTold := 0 < n && context.profile.isWarningEnabled RecordReferences.warningName
    return ⟨RecordReferences.link es, .ok (if isTold then [RecordReferences.warning n] else [])⟩
  | conditionLogic _ =>
    let isOn := context.profile.isFeatureEnabled ConditionLogic.feature
    return ⟨if isOn then ConditionLogic.unpackAll es else es, .ok []⟩
  | labels _ => return ⟨Labels.split es, .ok []⟩
  | packageDependencies => return ⟨PackageDependencies.link es, .ok []⟩
  | issueTypes => return ⟨IssueTypes.flatten es, .ok []⟩
  | changeTimes => return ⟨ChangeTimes.update context.source es, .ok []⟩
  | idle => return ⟨es, .ok []⟩
  | probe label failing => return ⟨es, ← probeResult label failing .onFetch [label]⟩

/-- The filter with what it saved, and the changes that it leaves. -/
def preDeploy (context : FilterContext) (cs : List (Change Element)) :
    Filter → Wire σ (Filter × Step (List (Change Element)) Unit)
  | conditionLogic saved =>
    return (conditionLogic (ConditionLogic.saveChanges context.source cs saved),
      ⟨ConditionLogic.packChanges context.source cs, .ok ()⟩)
  | labels saved =>
    let (left, result) := Labels.merge context.source cs
    let merged := cs.filter Labels.isLabelChange
    let saves := result.isOk && !merged.isEmpty
    return (labels (if saves then merged else saved), ⟨left, result⟩)
  | probe label failing => return (probe label failing, ⟨cs, ← probeResult label failing .preDeploy ()⟩)
  | f => return (f, ⟨cs, .ok ()⟩)

def onDeploy (cs : List (Change Element)) :
    Filter → Wire σ (Filter × Step (List (Change Element)) Unit)
  | conditionLogic saved =>
    return (conditionLogic [], ⟨ConditionLogic.restoreChanges saved cs, .ok ()⟩)
  | labels saved => return (labels [], ⟨Labels.restore saved cs, .ok ()⟩)
  | probe label failing => return (probe label failing, ⟨cs, ← probeResult label failing .onDeploy ()⟩)
  | f => return (f, ⟨cs, .ok ()⟩)

/-- The filters of an adapter, none of them with anything saved. -/
def builtIn (maxDescribes : Nat) : List Filter :=
  [toolingTypes maxDescribes, recordReferences, conditionLogic [], labels [], packageDependencies,
   issueTypes, changeTimes]

end Filter

end ElementSync
