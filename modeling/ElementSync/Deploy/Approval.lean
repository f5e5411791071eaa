import ElementSync.Deploy.Batch

/-!
# Deploying approval rules with their conditions

A rule with custom logic needs its conditions, and a condition needs its rule.
So rules go first, custom ones with their logic set to "all"; then the conditions
with the identifiers of their rules; then the custom rules as they were meant.
-/
namespace ElementSync.Approval

def conditionsMetField : String := "sbaa__ConditionsMet__c"

def customLogic : String := "Custom"

def allConditions : String := "All"

def hasCustomLogic (i : Instance Element) : Bool :=
  i.text? conditionsMetField = some customLogic

def isRule (c : RecordChange) : Bool := c.data.typeName = ruleType

structure Plan where
  plainRules : List RecordChange
  customRules : List RecordChange
  conditions : List RecordChange

namespace Plan

def ofChanges (cs : List RecordChange) : Plan where
  plainRules := cs.filter fun c => isRule c && !hasCustomLogic c.data
  customRules := cs.filter fun c => isRule c && hasCustomLogic c.data
  conditions := cs.filter fun c => !isRule c

variable (p : Plan)

def ruleIds : List ElementId := (p.plainRules ++ p.customRules).map RecordChange.id

def firstBatch : List RecordChange :=
  p.plainRules ++ p.customRules.map (·.map (·.set conditionsMetField (.text allConditions)))

end Plan

/-- The identifiers that the first batch came back with. -/
def assignedIds (r : DeployResult) : Assoc ElementId (Value Element) :=
  r.applied.filterMap fun c => (c.data.get? idField).map (c.id, ·)

def missingRule (condition ruleId : ElementId) : Finding :=
  .error condition
    ("ApprovalCondition instance with name " ++ condition.name
      ++ " is referencing an ApprovalRule instance with name " ++ ruleId.name
      ++ " that was not deployed")
    ("The approval rule " ++ ruleId.fullName
      ++ " failed to deploy, so this condition cannot reference it")

/-- A condition with the identifier of its rule, or the finding that the rule is
not there. Rules from outside the group are left to the resolver. -/
def linkCondition (ruleIds : List ElementId) (ids : Assoc ElementId (Value Element))
    (c : RecordChange) : RecordChange ⊕ Finding :=
  match (c.data.get? ruleField).bind Value.reference? with
  | none => .inl c
  | some r =>
    if r.target ∈ ruleIds then
      match ids.lookup r.target with
      | some id => .inl (c.mapData (·.set ruleField id))
      | none => .inr (missingRule c.id r.target)
    else .inl c

/-- The custom rules that were created, as they were meant. -/
def finalRules (ids : Assoc ElementId (Value Element)) (rules : List RecordChange) :
    List (Instance Element) :=
  rules.filterMap fun c => (ids.lookup c.id).map (c.data.set idField)

/-- A custom rule counts as applied only when its logic was put back. -/
def mergeRules (finals : List (Instance Element)) (confirmed : List ElementId)
    (applied : List RecordChange) : List RecordChange :=
  applied.filterMap fun c => match finals.reverse.find? (·.id = c.id) with
    | some i => if i.id ∈ confirmed then some (.addition i) else none
    | none => some c

variable {σ : Type} (client : Client σ) (resolver : Resolver)

def deploy (changes : List RecordChange) : Wire σ DeployResult := do
  let plan := Plan.ofChanges changes
  let rules ← Deploy.batch client resolver plan.firstBatch
  let ids := assignedIds rules
  let linked := plan.conditions.map (linkCondition plan.ruleIds ids)
  let conditions ← Deploy.batch client resolver (linked.filterMap Sum.getLeft?)
  let finals := finalRules ids plan.customRules
  let restored ← Deploy.batch client resolver (finals.map fun i => .modification i i)
  return {
    applied := mergeRules finals restored.appliedIds rules.applied ++ conditions.applied
    findings := rules.findings ++ linked.filterMap Sum.getRight? ++ conditions.findings
      ++ restored.findings }

end ElementSync.Approval
