import ElementSync.Proofs.ConditionLogic.Restoring
import ElementSync.Proofs.Deploy.RestoredRules

/-!
# What an approval deploy reports

A change is reported as it was given, with an identifier written into it, but for two fields. A
condition that was linked is reported with the identifier in place of the reference to its rule,
and a custom rule without an identifier is reported with its provisional logic.
-/

namespace ElementSync

theorem Deploy.withAssignedId_eq_write (c report : RecordChange) :
    withAssignedId c report = c.write ((identifierOf? report).map (idField, ·)).toList := by
  rw [withAssignedId_eq]
  cases identifierOf? report with
  | none => exact (RecordChange.write_nil c).symm
  | some v => rfl

namespace Approval

variable (changes : List RecordChange) (a₁ : BatchAnswer)

def link? (c : RecordChange) : Option (Value Element) :=
  (ruleOf? changes c).bind fun i => (knownIds changes a₁).lookup i

/-- The field of a change that is reported otherwise than it was given. -/
def replaced? (c : RecordChange) : Option (String × Value Element) :=
  if isRule c then
    if hasCustomLogic c.data && (recordedId? a₁ c).isNone then
      some (conditionsMetField, .text allConditions)
    else none
  else (link? changes a₁ c).map (ruleField, ·)

variable {changes a₁} {a₂ a₃ : BatchAnswer} {c d r : RecordChange}

theorem linkCondition_eq (c : RecordChange) :
    linkCondition (Plan.ofChanges changes).ruleIds (knownIds changes a₁) c =
      match ruleOf? changes c with
      | none => .inl c
      | some i => match (knownIds changes a₁).lookup i with
        | some v => .inl (c.write [(ruleField, v)])
        | none => .inr (missingRule c.id i) := by
  have hrule : ruleOf? changes c = ((c.data.get? ruleField).bind Value.reference?).bind fun r =>
      if r.target ∈ (changes.filter isRule).map RecordChange.id then some r.target else none := by
    rw [ruleOf?, Option.bind_assoc]
    rfl
  unfold linkCondition
  rw [hrule]
  cases (c.data.get? ruleField).bind Value.reference? with
  | none => rfl
  | some r =>
    by_cases hi : r.target ∈ (changes.filter isRule).map RecordChange.id
    · simp only [Option.bind_some, if_pos hi, if_pos ((mem_ruleIds changes).2 hi)]
      rfl
    · simp only [Option.bind_some, if_neg hi, if_neg (mt (mem_ruleIds changes).1 hi)]

theorem mem_conditions : c ∈ (Plan.ofChanges changes).conditions ↔ c ∈ changes ∧ ¬ isRule c := by
  rw [Plan.ofChanges, List.mem_filter, Bool.not_eq_true', Bool.not_eq_true]

/-- A condition goes out unless it refers to a rule of the list without an identifier. -/
theorem mem_conditionBatch :
    d ∈ conditionBatch changes a₁ ↔ ∃ c ∈ changes, ¬ isRule c ∧
      (ruleOf? changes c = none ∨ (link? changes a₁ c).isSome) ∧
        d = c.write ((link? changes a₁ c).map (ruleField, ·)).toList := by
  have hlink : ∀ c : RecordChange,
      (linkCondition (Plan.ofChanges changes).ruleIds (knownIds changes a₁) c).getLeft? = some d ↔
        (ruleOf? changes c = none ∨ (link? changes a₁ c).isSome) ∧
          d = c.write ((link? changes a₁ c).map (ruleField, ·)).toList := by
    intro c
    rw [linkCondition_eq, link?]
    cases hrule : ruleOf? changes c with
    | none => simp [eq_comm]
    | some i => cases hv : (knownIds changes a₁).lookup i <;> simp [hv, eq_comm]
  rw [conditionBatch, linkedConditions, List.filterMap_map, List.mem_filterMap]
  simp only [Function.comp, hlink, mem_conditions, and_assoc]

theorem key_of_replaced? {e : String × Value Element} (h : replaced? changes a₁ c = some e) :
    e.1 = conditionsMetField ∨ e.1 = ruleField := by
  unfold replaced? at h
  split at h
  · rw [Option.ite_none_right_eq_some] at h
    exact Or.inl (congrArg Prod.fst (Option.some.inj h.2)).symm
  · obtain ⟨v, -, rfl⟩ := Option.map_eq_some_iff.1 h
    exact Or.inr rfl

/-- What is replaced is there already unless a custom rule is reported without its logic, or a
condition without the reference to its rule. -/
theorem forall_replaced?_iff (c : RecordChange) :
    (∀ e ∈ replaced? changes a₁ c, c.data.get? e.1 = some e.2) ↔
      (isRule c → hasCustomLogic c.data → (recordedId? a₁ c).isSome) ∧
      (¬ isRule c → ∀ v, link? changes a₁ c = some v → c.data.get? ruleField = some v) := by
  by_cases hrule : isRule c
  case pos =>
    by_cases hcustom : hasCustomLogic c.data
    case pos =>
      have hne : customLogic ≠ allConditions := by decide
      cases hrecorded : recordedId? a₁ c with
      | none =>
        simp [replaced?, hrule, hcustom, hrecorded, get?_of_hasCustomLogic hcustom, Value.text, hne]
      | some v => simp [replaced?, hrule, hrecorded]
    case neg => simp [replaced?, hrule, hcustom]
  case neg => simp [replaced?, hrule]

section
variable (hids : (changes.map RecordChange.id).Nodup)
include hids

theorem eq_of_id_eq (hc : c ∈ changes) (hd : d ∈ changes) (hid : c.id = d.id) : c = d := by
  have hfind := RecordChange.find?_id_of_mem hids hc
  rw [hid, RecordChange.find?_id_of_mem hids hd] at hfind
  exact (Option.some.inj hfind).symm

theorem customRule?_of_mem (hc : c ∈ changes) (hcustom : isCustomRule c) :
    customRule? changes c.id = some c := by
  have hnodup : ((changes.filter isCustomRule).reverse.map RecordChange.id).Nodup := by
    rw [List.map_reverse, (List.reverse_perm _).nodup_iff]
    exact hids.sublist (List.filter_sublist.map RecordChange.id)
  exact RecordChange.find?_id_of_mem hnodup
    (List.mem_reverse.2 (List.mem_filter.2 ⟨hc, hcustom⟩))

/-- Nothing waits for the third call about a plain rule. -/
theorem find?_finals_of_plain (hc : c ∈ changes) (hplain : ¬ isCustomRule c) :
    (finals changes a₁).reverse.find? (·.id = c.id) = none := by
  rw [List.find?_eq_none]
  intro i hi hid
  obtain ⟨d, hd, hfinal⟩ := List.mem_filterMap.1 (List.mem_reverse.1 hi)
  obtain ⟨v, -, rfl⟩ := Option.map_eq_some_iff.1 hfinal
  obtain ⟨hmem, hcustom⟩ := List.mem_filter.1 hd
  have hsame : d.id = c.id := of_decide_eq_true hid
  rw [eq_of_id_eq hids hmem hc hsame] at hcustom
  exact hplain hcustom

/-- Every report is of a change of the list, which differs from it in what was replaced and in
its identifier. -/
theorem exists_of_mem_applied (hadditions : ∀ c ∈ changes, c.action = .add)
    (hr : r ∈ (result changes a₁ a₂ a₃).applied) :
    ∃ c ∈ changes, ∃ v : Option (Value Element),
      r = c.write ((replaced? changes a₁ c).toList ++ (v.map (idField, ·)).toList) := by
  rcases List.mem_append.1 hr with hmerged | hcondition
  case inl =>
    obtain ⟨b, hb, hbid, hcases⟩ := exists_of_mem_mergeRules hmerged
    rw [rulesResult, Deploy.applied_outcome] at hb
    obtain ⟨p, report, hp, -, rfl⟩ := Deploy.exists_of_mem_matchReports hb
    have hpid : p.id = r.id := by
      have hfound := List.find?_some hp
      exact (of_decide_eq_true hfound).trans hbid
    obtain ⟨c, hc, hrule, rfl⟩ :=
      exists_of_mem_firstBatch changes (List.mem_reverse.1 (List.mem_of_find?_eq_some hp))
    rw [id_provisional] at hpid
    refine ⟨c, hc, ?_⟩
    by_cases hcustom : hasCustomLogic c.data
    case pos =>
      have hfind := customRule?_of_mem hids hc (Bool.and_eq_true_iff.2 ⟨hrule, hcustom⟩)
      rcases reported_customRule hfind hpid.symm hr with ⟨v, hv, -, rfl⟩ | ⟨hnone, rfl⟩
      · have hkept : replaced? changes a₁ c = none := by simp [replaced?, hrule, hv]
        refine ⟨some v, ?_⟩
        rw [hkept, Change.eq_addition (hadditions c hc)]
        rfl
      · have hprovisional : replaced? changes a₁ c =
            some (conditionsMetField, .text allConditions) := by
          simp [replaced?, hrule, hcustom, hnone]
        refine ⟨none, ?_⟩
        rw [hprovisional, provisional, if_pos hcustom, Change.eq_addition (hadditions c hc)]
        rfl
    case neg =>
      have hplain : ¬ isCustomRule c := fun h => hcustom (Bool.and_eq_true_iff.1 h).2
      rw [← hpid, find?_finals_of_plain hids hc hplain] at hcases
      have hreported : r = Deploy.withAssignedId (provisional c) report := by
        rcases hcases with ⟨-, heq⟩ | ⟨i, hfind, -⟩
        · exact heq
        · cases hfind
      refine ⟨Deploy.identifierOf? report, ?_⟩
      rw [hreported, Deploy.withAssignedId_eq_write, provisional, if_neg hcustom]
      simp [replaced?, hrule, hcustom]
  case inr =>
    rw [Deploy.applied_outcome] at hcondition
    obtain ⟨p, report, hp, -, rfl⟩ := Deploy.exists_of_mem_matchReports hcondition
    obtain ⟨c, hc, hcond, -, rfl⟩ :=
      mem_conditionBatch.1 (List.mem_reverse.1 (List.mem_of_find?_eq_some hp))
    refine ⟨c, hc, Deploy.identifierOf? report, ?_⟩
    rw [Deploy.withAssignedId_eq_write, RecordChange.write_append, replaced?, if_neg hcond]

end

/-! ### Packed changes

The fields that a deploy reads keep no logic, so it decides the same about packed changes. -/

theorem lookup_knownIds_eq (changes : List RecordChange) (a : BatchAnswer) (i : ElementId) :
    (knownIds changes a).lookup i =
      (((Plan.ofChanges changes).plainRules ++ (Plan.ofChanges changes).customRules).reverse.find?
        (·.id = i)).bind (recordedId? a) := by
  have hid : ((fun d : RecordChange => decide (d.id = i)) ∘ provisional) =
      fun d => decide (d.id = i) := by
    funext d
    simp
  rw [lookup_knownIds, firstBatch_eq, ← List.map_reverse, List.find?_map, hid]
  cases hfind : ((Plan.ofChanges changes).plainRules ++
      (Plan.ofChanges changes).customRules).reverse.find? (·.id = i) with
  | none => rfl
  | some c =>
    have hc : c.id = i := by simpa using List.find?_some hfind
    rw [Option.map_some, Option.bind_some, Option.bind_some, get?_idField_provisional, recordedId?,
      hc]

section
variable {f : Instance Element → Instance Element}
  (hf : ∀ i : Instance Element, i.PacksInto (f i))
include hf

theorem isRule_mapAfter (c : RecordChange) : isRule (c.mapAfter f) = isRule c := by
  have htype := Instance.type_eq_of_outline (RecordChange.packsInto_mapAfter hf c).outline
  rw [isRule, isRule, Instance.typeName, Instance.typeName, htype]

theorem hasCustomLogic_mapAfter (c : RecordChange) :
    hasCustomLogic (c.mapAfter f).data = hasCustomLogic c.data := by
  rw [hasCustomLogic, hasCustomLogic, Instance.text?, Instance.text?,
    (RecordChange.packsInto_mapAfter hf c).get?_of_notMem (by decide)]

theorem recordedId?_mapAfter (a : BatchAnswer) (c : RecordChange) :
    recordedId? a (c.mapAfter f) = recordedId? a c := by
  rw [recordedId?, recordedId?, RecordChange.id_mapAfter hf,
    (RecordChange.packsInto_mapAfter hf c).get?_of_notMem (by decide)]

theorem ids_filter_isRule_mapAfter (changes : List RecordChange) :
    ((changes.map (RecordChange.mapAfter f)).filter isRule).map RecordChange.id =
      (changes.filter isRule).map RecordChange.id := by
  have hrule : isRule ∘ RecordChange.mapAfter f = isRule := funext (isRule_mapAfter hf)
  rw [List.filter_map, hrule, RecordChange.map_id_mapAfter hf]

theorem ruleOf?_mapAfter (changes : List RecordChange) (c : RecordChange) :
    ruleOf? (changes.map (RecordChange.mapAfter f)) (c.mapAfter f) = ruleOf? changes c := by
  rw [ruleOf?, ruleOf?, ids_filter_isRule_mapAfter hf,
    (RecordChange.packsInto_mapAfter hf c).get?_of_notMem (by decide)]

theorem lookup_knownIds_mapAfter (changes : List RecordChange) (a : BatchAnswer) (i : ElementId) :
    (knownIds (changes.map (RecordChange.mapAfter f)) a).lookup i =
      (knownIds changes a).lookup i := by
  have hplain : (fun c => isRule c && !hasCustomLogic (Change.data c)) ∘ RecordChange.mapAfter f =
      fun c => isRule c && !hasCustomLogic (Change.data c) := by
    funext c
    rw [Function.comp, isRule_mapAfter hf, hasCustomLogic_mapAfter hf]
  have hcustom : (fun c => isRule c && hasCustomLogic (Change.data c)) ∘ RecordChange.mapAfter f =
      fun c => isRule c && hasCustomLogic (Change.data c) := by
    funext c
    rw [Function.comp, isRule_mapAfter hf, hasCustomLogic_mapAfter hf]
  have hid : (fun c : RecordChange => decide (c.id = i)) ∘ RecordChange.mapAfter f =
      fun c => decide (c.id = i) := by
    funext c
    rw [Function.comp, RecordChange.id_mapAfter hf]
  rw [lookup_knownIds_eq, lookup_knownIds_eq]
  simp only [Plan.ofChanges, List.filter_map, hplain, hcustom]
  rw [← List.map_append, ← List.map_reverse, List.find?_map, hid]
  simp only [Option.bind_map, Function.comp_def, recordedId?_mapAfter hf]

theorem link?_mapAfter (changes : List RecordChange) (a : BatchAnswer) (c : RecordChange) :
    link? (changes.map (RecordChange.mapAfter f)) a (c.mapAfter f) = link? changes a c := by
  rw [link?, link?, ruleOf?_mapAfter hf]
  simp only [lookup_knownIds_mapAfter hf]

theorem replaced?_mapAfter (changes : List RecordChange) (a : BatchAnswer) (c : RecordChange) :
    replaced? (changes.map (RecordChange.mapAfter f)) a (c.mapAfter f) =
      replaced? changes a c := by
  rw [replaced?, replaced?, link?_mapAfter hf, isRule_mapAfter hf, hasCustomLogic_mapAfter hf,
    recordedId?_mapAfter hf]

end

end Approval

end ElementSync
