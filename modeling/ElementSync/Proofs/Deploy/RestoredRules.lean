import ElementSync.Proofs.Deploy.ApprovalCalls

/-!
# Which custom rules are reported

A custom rule is put back only if its identifier is known after the first call. With an
identifier it is reported when the third call confirms it; without one it is reported with its
provisional logic, because nothing waits for the third call.
-/

namespace ElementSync.Approval

theorem find?_finalRules (ids : Assoc ElementId (Value Element)) (rules : List RecordChange)
    (i : ElementId) :
    (finalRules ids rules).find? (·.id = i) =
      (ids.lookup i).bind fun v =>
        (rules.find? (·.id = i)).map fun c => c.data.set idField v := by
  induction rules with
  | nil => cases ids.lookup i <;> rfl
  | cons c rules ih =>
    have hid : ∀ v : Value Element, (c.data.set idField v).id = c.id := fun _ => rfl
    by_cases hi : c.id = i
    · subst hi
      cases hv : ids.lookup c.id with
      | none =>
        rw [hv] at ih
        rw [finalRules, List.filterMap_cons_none (by simp [hv])]
        exact ih
      | some v =>
        rw [finalRules, List.filterMap_cons_some (by rw [hv]; rfl)]
        simp [hid]
    · rw [List.find?_cons_of_neg (by simpa using hi), ← ih]
      cases hv : ids.lookup c.id with
      | none => rw [finalRules, List.filterMap_cons_none (by simp [hv])]; rfl
      | some v =>
        rw [finalRules, List.filterMap_cons_some (by rw [hv]; rfl),
          List.find?_cons_of_neg (by simpa [hid] using hi)]
        rfl

variable (changes : List RecordChange)

/-- The custom rule with an id; of several the last counts. -/
def customRule? (i : ElementId) : Option RecordChange :=
  (changes.filter isCustomRule).reverse.find? (·.id = i)

/-- The identifier of a rule that is known after the first call: the one that the first report
about it brings, else its own. -/
def recordedId? (a : BatchAnswer) (c : RecordChange) : Option (Value Element) :=
  (a.applied.find? (·.id = c.id)).bind fun report =>
    (Deploy.identifierOf? report).or (c.data.get? idField)

variable {changes} {a₁ a₂ a₃ : BatchAnswer} {c : RecordChange}

theorem find?_firstBatch_of_customRule? {i : ElementId} (h : customRule? changes i = some c) :
    (Plan.ofChanges changes).firstBatch.reverse.find? (·.id = i) = some (provisional c) := by
  have hid : ((fun d : RecordChange => decide (d.id = i)) ∘ provisional) =
      fun d => decide (d.id = i) := by
    funext d
    simp
  rw [firstBatch_eq, ← List.map_reverse, List.find?_map, hid, List.reverse_append,
    List.find?_append]
  have hcustom : (Plan.ofChanges changes).customRules.reverse.find? (·.id = i) = some c := h
  rw [hcustom]
  rfl

theorem lookup_knownIds_of_customRule? (h : customRule? changes c.id = some c) :
    (knownIds changes a₁).lookup c.id = recordedId? a₁ c := by
  rw [lookup_knownIds, find?_firstBatch_of_customRule? h, Option.bind_some, recordedId?]
  rw [get?_idField_provisional]

theorem find?_finals_of_customRule? (h : customRule? changes c.id = some c) :
    (finals changes a₁).reverse.find? (·.id = c.id) =
      (recordedId? a₁ c).map fun v => c.data.set idField v := by
  have hcustom : (Plan.ofChanges changes).customRules.reverse.find? (·.id = c.id) = some c := h
  rw [finals, finalRules, ← List.filterMap_reverse]
  rw [← finalRules, find?_finalRules, lookup_knownIds_of_customRule? h, hcustom]
  cases recordedId? a₁ c <;> rfl

theorem isCustomRule_of_customRule? {i : ElementId} (h : customRule? changes i = some c) :
    isCustomRule c :=
  (List.mem_filter.1 (List.mem_reverse.1 (List.mem_of_find?_eq_some h))).2

theorem isRule_iff {r : RecordChange} : isRule r ↔ r.id.typeName = ruleType :=
  decide_eq_true_iff

theorem id_linkCondition {ruleIds : List ElementId} {ids : Assoc ElementId (Value Element)}
    {d : RecordChange} (h : (linkCondition ruleIds ids c).getLeft? = some d) : d.id = c.id := by
  unfold linkCondition at h
  split at h
  · cases h
    rfl
  · split at h
    · split at h
      · cases h
        exact c.id_mapData_set _ _
      · cases h
    · cases h
      rfl

/-- The second call is about no rule. -/
theorem typeName_ne_of_mem_conditionBatch {i : ElementId}
    (h : i ∈ (conditionBatch changes a₁).map RecordChange.id) : i.typeName ≠ ruleType := by
  obtain ⟨d, hd, rfl⟩ := List.mem_map.1 h
  obtain ⟨linked, hlinked, hleft⟩ := List.mem_filterMap.1 hd
  obtain ⟨c, hc, rfl⟩ := List.mem_map.1 hlinked
  have hnot : ¬ isRule c := by simpa using (List.mem_filter.1 hc).2
  rw [Ne, id_linkCondition hleft, ← isRule_iff]
  exact hnot

theorem appliedIds_outcome_subset {cs : List RecordChange} {a : BatchAnswer} {i : ElementId}
    (h : i ∈ (Deploy.outcome cs a).appliedIds) :
    i ∈ cs.map RecordChange.id ∧ i ∈ a.appliedIds := by
  rw [DeployResult.appliedIds, Deploy.applied_outcome] at h
  exact Deploy.mem_ids_matchReports.1 h

theorem exists_of_mem_mergeRules {is : List (Instance Element)} {confirmed : List ElementId}
    {applied : List RecordChange} {r : RecordChange} (h : r ∈ mergeRules is confirmed applied) :
    ∃ b ∈ applied, b.id = r.id ∧
      ((is.reverse.find? (·.id = r.id) = none ∧ r = b) ∨
        ∃ i, is.reverse.find? (·.id = r.id) = some i ∧ i.id ∈ confirmed ∧ r = .addition i) := by
  obtain ⟨b, hb, hmerge⟩ := List.mem_filterMap.1 h
  cases hfind : is.reverse.find? (·.id = b.id) with
  | none =>
    rw [hfind] at hmerge
    cases hmerge
    exact ⟨r, hb, rfl, Or.inl ⟨hfind, rfl⟩⟩
  | some i =>
    have hi : i.id = b.id := by simpa using List.find?_some hfind
    rw [hfind] at hmerge
    obtain ⟨hconfirmed, hr⟩ := Option.ite_none_right_eq_some.1 hmerge
    cases hr
    refine ⟨b, hb, hi.symm, Or.inr ⟨i, ?_, hconfirmed, rfl⟩⟩
    exact (congrArg (fun j => is.reverse.find? (·.id = j)) hi).trans hfind

/-- What is reported of a rule comes from the merge of the first and the third call. -/
theorem mem_mergeRules_of_isRule {r : RecordChange} (hrule : isRule r)
    (h : r ∈ (result changes a₁ a₂ a₃).applied) :
    r ∈ mergeRules (finals changes a₁)
      (Deploy.outcome (restoreBatch changes a₁) a₃).appliedIds (rulesResult changes a₁).applied := by
  rcases List.mem_append.1 h with hmerged | hcondition
  · exact hmerged
  · have hid := (appliedIds_outcome_subset (List.mem_map_of_mem hcondition)).1
    exact absurd (isRule_iff.1 hrule) (typeName_ne_of_mem_conditionBatch hid)

/-- A reported custom rule with a recorded identifier is the rule as it was meant, and the third
call confirmed it; one without is the rule as the first call sent it. -/
theorem reported_customRule (h : customRule? changes c.id = some c) {r : RecordChange}
    (hid : r.id = c.id) (hr : r ∈ (result changes a₁ a₂ a₃).applied) :
    (∃ v, recordedId? a₁ c = some v ∧ c.id ∈ a₃.appliedIds ∧
      r = .addition (c.data.set idField v)) ∨
    (recordedId? a₁ c = none ∧ r = provisional c) := by
  have hrule : isRule r := by
    rw [isRule_iff, hid, ← isRule_iff]
    exact (Bool.and_eq_true_iff.1 (isCustomRule_of_customRule? h)).1
  obtain ⟨b, hb, hbid, hcases⟩ := exists_of_mem_mergeRules (mem_mergeRules_of_isRule hrule hr)
  rw [hid, find?_finals_of_customRule? h] at hcases
  rcases hcases with ⟨hnone, rfl⟩ | ⟨i, hfind, hconfirmed, rfl⟩
  case inl =>
    have hrecorded : recordedId? a₁ c = none := Option.map_eq_none_iff.1 hnone
    refine Or.inr ⟨hrecorded, ?_⟩
    rw [rulesResult, Deploy.applied_outcome] at hb
    obtain ⟨d, report, hd, hreport, rfl⟩ := Deploy.exists_of_mem_matchReports hb
    rw [hid, find?_firstBatch_of_customRule? h] at hd
    cases hd
    rw [hid] at hreport
    rw [recordedId?, hreport, Option.bind_some] at hrecorded
    exact Deploy.withAssignedId_of_none (Option.or_eq_none_iff.1 hrecorded).1
  case inr =>
    obtain ⟨v, hv, rfl⟩ := Option.map_eq_some_iff.1 hfind
    exact Or.inl ⟨v, hv, (appliedIds_outcome_subset hconfirmed).2, rfl⟩

theorem text?_provisional_of_custom (h : hasCustomLogic c.data) :
    (provisional c).data.text? conditionsMetField = some allConditions := by
  simp [provisional, h, Instance.text?, Value.text, Value.text?]

variable {σ : Type}

/-- A reported custom rule was confirmed by the third call and has its logic back exactly if the
first call left it with an identifier. -/
theorem reported_restored_iff (client : Client σ) (resolver : Resolver)
    (changes : List RecordChange) (s : Session σ) :
    ∃ x₁ x₂ x₃ : Exchange,
      client.Exchanges s [x₁, x₂, x₃] (deploy client resolver changes s).2 ∧
      ∀ c, customRule? changes c.id = some c →
        ∀ r ∈ (deploy client resolver changes s).1.applied, r.id = c.id →
          ((c.id ∈ x₃.answer.appliedIds ∧
              r.data.text? conditionsMetField = some customLogic) ↔
            (recordedId? x₁.answer c).isSome) := by
  obtain ⟨x₁, x₂, x₃, s', hcalls, -, -, -, hrun⟩ := deploy_run changes client resolver s
  rw [hrun]
  refine ⟨x₁, x₂, x₃, hcalls, ?_⟩
  intro c hc r hr hid
  have hcustom : hasCustomLogic c.data :=
    (Bool.and_eq_true_iff.1 (isCustomRule_of_customRule? hc)).2
  rcases reported_customRule hc hid hr with ⟨v, hv, hconfirmed, rfl⟩ | ⟨hnone, rfl⟩
  case inl =>
    have hlogic : (c.data.set idField v).text? conditionsMetField = some customLogic := by
      rw [Instance.text?, get?_conditionsMet_set_idField, get?_of_hasCustomLogic hcustom]
      rfl
    simp only [hv, Option.isSome_some, iff_true]
    exact ⟨hconfirmed, hlogic⟩
  case inr =>
    have hne : allConditions ≠ customLogic := by decide
    simp [hnone, text?_provisional_of_custom hcustom, hne]

/-- A client that confirms the rule and names no identifier: the last call is empty, and the rule
is reported with the logic it has for the time being. -/
theorem reported_provisional_discount :
    let done := deploy (Client.reporting id) { context := {} } [discountRule] { state := () }
    done.2.trace.batches.map (·.map RecordChange.id) = [[discountRule.id], [], []] ∧
      customRule? [discountRule] discountRule.id = some discountRule ∧
      ∃ r ∈ done.1.applied, r.id = discountRule.id ∧
        r.data.text? conditionsMetField = some allConditions ∧
        r.data.text? conditionsMetField ≠ some customLogic := by
  intro done
  refine ⟨rfl, rfl, provisional discountRule, ?_, rfl, rfl, by decide⟩
  exact List.mem_singleton_self (provisional discountRule)

end ElementSync.Approval
