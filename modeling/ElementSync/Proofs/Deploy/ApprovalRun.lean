import ElementSync.Deploy.Approval
import ElementSync.Proofs.Deploy.Reports

/-!
# The run of an approval deploy

A deploy of approval rules makes three exchanges. Every batch after the first and the result are
functions of the changes and of the answers so far, so what a deploy does can be read off its
exchanges without running it again.
-/

namespace ElementSync.Approval

variable (changes : List RecordChange)

def rulesResult (a : BatchAnswer) : DeployResult :=
  Deploy.outcome (Plan.ofChanges changes).firstBatch a

def knownIds (a : BatchAnswer) : Assoc ElementId (Value Element) :=
  assignedIds (rulesResult changes a)

def linkedConditions (a : BatchAnswer) : List (RecordChange ⊕ Finding) :=
  (Plan.ofChanges changes).conditions.map
    (linkCondition (Plan.ofChanges changes).ruleIds (knownIds changes a))

def conditionBatch (a : BatchAnswer) : List RecordChange :=
  (linkedConditions changes a).filterMap Sum.getLeft?

def missingRules (a : BatchAnswer) : List Finding :=
  (linkedConditions changes a).filterMap Sum.getRight?

def finals (a : BatchAnswer) : List (Instance Element) :=
  finalRules (knownIds changes a) (Plan.ofChanges changes).customRules

def restoreBatch (a : BatchAnswer) : List RecordChange :=
  (finals changes a).map fun i => .modification i i

def result (a₁ a₂ a₃ : BatchAnswer) : DeployResult :=
  let rules := rulesResult changes a₁
  let conditions := Deploy.outcome (conditionBatch changes a₁) a₂
  let restored := Deploy.outcome (restoreBatch changes a₁) a₃
  { applied := mergeRules (finals changes a₁) restored.appliedIds rules.applied
      ++ conditions.applied
    findings := rules.findings ++ missingRules changes a₁ ++ conditions.findings
      ++ restored.findings }

variable {σ : Type} (client : Client σ) (resolver : Resolver)

theorem deploy_run (s : Session σ) :
    ∃ (x₁ x₂ x₃ : Exchange) (s' : Session σ), client.Exchanges s [x₁, x₂, x₃] s' ∧
      x₁.sent = (Plan.ofChanges changes).firstBatch.map resolver.resolveChange ∧
      x₂.sent = (conditionBatch changes x₁.answer).map resolver.resolveChange ∧
      x₃.sent = (restoreBatch changes x₁.answer).map resolver.resolveChange ∧
      deploy client resolver changes s =
        (result changes x₁.answer x₂.answer x₃.answer, s') := by
  obtain ⟨x₁, s₁, hcall₁, hsent₁, hrun₁⟩ :=
    Deploy.batch_run client resolver (Plan.ofChanges changes).firstBatch s
  obtain ⟨x₂, s₂, hcall₂, hsent₂, hrun₂⟩ :=
    Deploy.batch_run client resolver (conditionBatch changes x₁.answer) s₁
  obtain ⟨x₃, s₃, hcall₃, hsent₃, hrun₃⟩ :=
    Deploy.batch_run client resolver (restoreBatch changes x₁.answer) s₂
  refine ⟨x₁, x₂, x₃, s₃, .cons hcall₁ (.cons hcall₂ (.single hcall₃)), hsent₁, hsent₂, hsent₃, ?_⟩
  simp only [deploy, bind, StateT.bind, hrun₁]
  unfold conditionBatch linkedConditions knownIds rulesResult at hrun₂
  rw [hrun₂]
  unfold restoreBatch finals knownIds rulesResult at hrun₃
  dsimp only
  rw [hrun₃]
  rfl

theorem lookup_assigned {cs : List RecordChange} (hcs : (cs.map RecordChange.id).Nodup)
    (i : ElementId) :
    (cs.filterMap fun c => (c.data.get? idField).map (c.id, ·)).lookup i =
      (cs.find? (·.id = i)).bind (·.data.get? idField) := by
  induction cs with
  | nil => rfl
  | cons c cs ih =>
    obtain ⟨hc, hcs⟩ := List.nodup_cons.1 hcs
    have hnone : c.id = i → cs.find? (·.id = i) = none := by
      rintro rfl
      rw [← Option.not_isSome_iff_eq_none, RecordChange.isSome_find?_id]
      exact hc
    cases hv : c.data.get? idField with
    | none =>
      rw [List.filterMap_cons_none (by simp [hv]), ih hcs]
      by_cases hi : c.id = i
      · simp [hi, hnone hi, hv]
      · simp [hi]
    | some v =>
      rw [List.filterMap_cons_some (by rw [hv]; rfl), Assoc.lookup_cons_eq_ite, ih hcs]
      by_cases hi : c.id = i
      · simp [hi, hv]
      · rw [if_neg (Ne.symm hi), List.find?_cons_of_neg (by simpa using hi)]

/-- What is known of a rule after the first call is what the first report about it says, else
what the rule brought along. -/
theorem lookup_knownIds (a : BatchAnswer) (i : ElementId) :
    (knownIds changes a).lookup i =
      ((Plan.ofChanges changes).firstBatch.reverse.find? (·.id = i)).bind fun c =>
        (a.applied.find? (·.id = i)).bind fun report =>
          (Deploy.identifierOf? report).or (c.data.get? idField) := by
  have happlied := Deploy.applied_outcome (Plan.ofChanges changes).firstBatch a
  rw [knownIds, assignedIds, rulesResult, happlied,
    lookup_assigned (Deploy.nodup_ids_matchReports _ _), Deploy.find?_matchReports]
  cases (Plan.ofChanges changes).firstBatch.reverse.find? (·.id = i) with
  | none => rfl
  | some c =>
    cases a.applied.find? (·.id = i) with
    | none => rfl
    | some report => exact Deploy.get?_withAssignedId c report

/-- A rule as the first call sends it: custom logic is set to "all" for the time being. -/
def provisional (c : RecordChange) : RecordChange :=
  if hasCustomLogic c.data then c.map (·.set conditionsMetField (.text allConditions)) else c

@[simp] theorem id_provisional (c : RecordChange) :
    RecordChange.id (provisional c) = c.id := by
  unfold provisional
  split
  · exact c.id_map_set _ _
  · rfl

theorem get?_idField_provisional (c : RecordChange) :
    (provisional c).data.get? idField = c.data.get? idField := by
  unfold provisional
  split
  · have hne : idField ≠ conditionsMetField := by decide
    rw [Change.data_map, Instance.get?_set, if_neg hne]
  · rfl

theorem firstBatch_eq :
    (Plan.ofChanges changes).firstBatch =
      ((Plan.ofChanges changes).plainRules ++ (Plan.ofChanges changes).customRules).map
        provisional := by
  rw [Plan.firstBatch, List.map_append]
  congr 1
  · rw [List.map_congr_left (g := id), List.map_id]
    intro c hc
    have hplain : hasCustomLogic c.data = false := by
      simpa using (Bool.and_eq_true_iff.1 (List.mem_filter.1 hc).2).2
    simp [provisional, hplain]
  · apply List.map_congr_left
    intro c hc
    have hcustom : hasCustomLogic c.data = true :=
      (Bool.and_eq_true_iff.1 (List.mem_filter.1 hc).2).2
    simp [provisional, hcustom]

/-- Plain and custom rules together are the rules. -/
theorem rules_perm :
    ((Plan.ofChanges changes).plainRules ++ (Plan.ofChanges changes).customRules).Perm
      (changes.filter isRule) := by
  have hsplit := List.filter_append_perm (fun c : RecordChange => !hasCustomLogic c.data)
    (changes.filter isRule)
  simp only [List.filter_filter, Bool.not_not] at hsplit
  simpa only [Plan.ofChanges, Bool.and_comm] using hsplit

theorem map_id_firstBatch :
    (Plan.ofChanges changes).firstBatch.map RecordChange.id =
      (Plan.ofChanges changes).ruleIds := by
  rw [firstBatch_eq, List.map_map, Plan.ruleIds]
  congr 1
  funext c
  exact id_provisional c

/-- Every change is of a rule, which goes into the first call, or of a condition. -/
theorem ids_perm : ((Plan.ofChanges changes).firstBatch.map RecordChange.id ++
    (Plan.ofChanges changes).conditions.map RecordChange.id).Perm
    (changes.map RecordChange.id) := by
  rw [map_id_firstBatch, Plan.ruleIds, ← List.map_append]
  have hrules := (rules_perm changes).append_right (Plan.ofChanges changes).conditions
  exact (hrules.trans (List.filter_append_perm isRule changes)).map RecordChange.id

theorem mem_ruleIds {i : ElementId} :
    i ∈ (Plan.ofChanges changes).ruleIds ↔ i ∈ (changes.filter isRule).map RecordChange.id :=
  ((rules_perm changes).map RecordChange.id).mem_iff

theorem exists_of_mem_firstBatch {c : RecordChange}
    (h : c ∈ (Plan.ofChanges changes).firstBatch) :
    ∃ d ∈ changes, isRule d ∧ c = provisional d := by
  rw [firstBatch_eq] at h
  obtain ⟨d, hd, rfl⟩ := List.mem_map.1 h
  obtain ⟨hd, hrule⟩ := List.mem_filter.1 ((rules_perm changes).mem_iff.1 hd)
  exact ⟨d, hd, hrule, rfl⟩

end ElementSync.Approval
