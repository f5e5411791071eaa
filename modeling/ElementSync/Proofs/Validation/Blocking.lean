import ElementSync.Fetch.TypeOfSchema
import ElementSync.Validation.Pipeline
import Mathlib.Data.List.Nodup

/-!
# What blocks a change

Validators look at changes one by one, and an error is about the element of the change in which it
was found. So a change is held back for an error of its own, or of a change of something that lies
inside its element. All other changes have no bearing on it, so what is let through would be let
through again.
-/

namespace ElementSync

theorem Finding.not_isBlocking_warning (id : ElementId) (message detail : String) :
    ¬ (Finding.warning id message detail).isBlocking := Bool.false_ne_true

namespace Validation

section
variable {findings : List Finding} {c d : Change Element}

theorem isBlocked_iff :
    isBlocked findings c ↔
      ∃ f ∈ findings, f.isBlocking ∧ (f.id = c.id ∨ c.id.isAbove f.id) := by
  simp [isBlocked]

theorem isBlocked_of_mem {f : Finding} (hf : f ∈ findings) (hblocking : f.isBlocking)
    (hid : f.id = c.id) : isBlocked findings c :=
  isBlocked_iff.2 ⟨f, hf, hblocking, Or.inl hid⟩

/-- Of a change only the id counts. -/
theorem isBlocked_congr (hid : c.id = d.id) : isBlocked findings c = isBlocked findings d := by
  simp only [isBlocked, hid]

end

/-! ### Validators look at changes one by one -/

/-- What is found in a list is found in a single change of it. -/
def IsPointwise (check : List (Change Element) → List Finding) : Prop :=
  ∀ (cs : List (Change Element)) (f : Finding), f ∈ check cs ↔ ∃ c ∈ cs, f ∈ check [c]

theorem isPointwise_filterMap (check : Change Element → Option Finding) :
    IsPointwise (List.filterMap check) := by
  intro cs f
  simp [List.mem_filterMap]

theorem isPointwise_flatMap (check : Change Element → List Finding) :
    IsPointwise (List.flatMap check) := by
  intro cs f
  simp [List.mem_flatMap]

theorem IsPointwise.append {check check' : List (Change Element) → List Finding}
    (h : IsPointwise check) (h' : IsPointwise check') :
    IsPointwise fun cs => check cs ++ check' cs := by
  intro cs f
  simp only [List.mem_append, h cs f, h' cs f, and_or_left, exists_or]

end Validation

open Validation

theorem Validator.isPointwise_validate (v : Validator) : IsPointwise v.validate := by
  cases v with
  | packages =>
    exact (((isPointwise_filterMap packageAddOrRemove).append
      (isPointwise_filterMap packageModify)).append
      (isPointwise_filterMap packageFieldsRemoved)).append
      (isPointwise_filterMap packageVersionChanged)
  | records => exact (isPointwise_flatMap recordUpdate).append (isPointwise_flatMap recordCreation)
  | dataCategories => exact isPointwise_filterMap destructive?
  | deploySupport types => exact isPointwise_filterMap (unsupported? types)

/-! ### Errors are about the element of their change -/

namespace Validation
variable {c : Change Element} {f : Finding}

theorem id_packageAddOrRemove (h : packageAddOrRemove c = some f) : f.id = c.id := by
  cases c with
  | modification b a => cases h
  | addition a =>
    obtain ⟨-, h⟩ := Option.ite_none_right_eq_some.1 h
    cases h
    rfl
  | removal b =>
    obtain ⟨-, h⟩ := Option.ite_none_right_eq_some.1 h
    cases h
    rfl

theorem id_packageModify (h : packageModify c = some f) : f.id = c.id := by
  cases c with
  | modification b a =>
    obtain ⟨-, h⟩ := Option.ite_none_right_eq_some.1 h
    cases h
    rfl
  | _ => cases h

theorem id_packageFieldsRemoved (h : packageFieldsRemoved c = some f) : f.id = c.id := by
  unfold packageFieldsRemoved at h
  split at h
  · obtain ⟨-, h⟩ := Option.ite_none_right_eq_some.1 h
    cases h
    rfl
  · cases h

theorem id_packageVersionChanged (h : packageVersionChanged c = some f) : f.id = c.id := by
  unfold packageVersionChanged at h
  split at h
  · obtain ⟨-, h⟩ := Option.ite_none_right_eq_some.1 h
    cases h
    rfl
  · cases h

theorem id_of_mem_packages (h : f ∈ packages [c]) : f.id = c.id := by
  have hchecks : packageAddOrRemove c = some f ∨ packageModify c = some f ∨
      packageFieldsRemoved c = some f ∨ packageVersionChanged c = some f := by
    simpa [packages, List.mem_filterMap, or_assoc] using h
  rcases hchecks with h | h | h | h
  · exact id_packageAddOrRemove h
  · exact id_packageModify h
  · exact id_packageFieldsRemoved h
  · exact id_packageVersionChanged h

theorem id_unsupported? {types : SupportedTypes} (h : unsupported? types c = some f) :
    f.id = c.id := by
  unfold unsupported? at h
  split at h
  · rename_i i hdata
    have hid : c.id = i.id := congrArg Element.id hdata
    split at h
    · cases h
    · split at h
      · cases h
        exact hid.symm
      · split at h
        · cases h
        · cases h
          exact hid.symm
  · cases h

/-- What is said about values of records does not block them. -/
theorem not_isBlocking_of_mem_recordUpdate (h : f ∈ recordUpdate c) : ¬ f.isBlocking := by
  unfold recordUpdate at h
  split at h
  · split at h
    · obtain ⟨_, -, rfl⟩ := List.mem_map.1 h
      exact Finding.not_isBlocking_warning _ _ _
    · cases h
  · cases h

theorem not_isBlocking_of_mem_recordCreation (h : f ∈ recordCreation c) : ¬ f.isBlocking := by
  unfold recordCreation at h
  split at h
  · split at h
    · obtain ⟨_, -, rfl⟩ := List.mem_map.1 h
      exact Finding.not_isBlocking_warning _ _ _
    · cases h
  · cases h

theorem not_isBlocking_of_destructive? (h : destructive? c = some f) : ¬ f.isBlocking := by
  unfold destructive? at h
  split at h
  · cases h
  · split at h
    · obtain ⟨-, h⟩ := Option.ite_none_right_eq_some.1 h
      cases h
      exact Finding.not_isBlocking_warning _ _ _
    · cases h

end Validation

/-- An error that a validator finds in a change is about the element of the change. -/
theorem Validator.id_of_mem_validate {v : Validator} {c : Change Element} {f : Finding}
    (hf : f ∈ v.validate [c]) (hblocking : f.isBlocking) : f.id = c.id := by
  cases v with
  | packages => exact id_of_mem_packages hf
  | records =>
    have hchecks : f ∈ recordUpdate c ∨ f ∈ recordCreation c := by
      simpa [validate, Validation.records] using hf
    rcases hchecks with h | h
    · exact absurd hblocking (not_isBlocking_of_mem_recordUpdate h)
    · exact absurd hblocking (not_isBlocking_of_mem_recordCreation h)
  | dataCategories =>
    have hcheck : destructive? c = some f := by
      simpa [validate, Validation.dataCategories, List.mem_filterMap] using hf
    exact absurd hblocking (not_isBlocking_of_destructive? hcheck)
  | deploySupport types =>
    have hcheck : unsupported? types c = some f := by
      simpa [validate, Validation.deploySupport, List.mem_filterMap] using hf
    exact id_unsupported? hcheck

/-! ### Warnings, too -/

def Change.IsOfOneElement : Change Element → Prop
  | modification b a => b.id = a.id
  | _ => True

namespace Validation
variable {c : Change Element} {f : Finding}

theorem id_of_mem_recordUpdate (hc : c.IsOfOneElement) (h : f ∈ recordUpdate c) :
    f.id = c.id := by
  unfold recordUpdate at h
  split at h
  · split at h
    · obtain ⟨_, -, rfl⟩ := List.mem_map.1 h
      exact hc
    · cases h
  · cases h

theorem id_of_mem_recordCreation (h : f ∈ recordCreation c) : f.id = c.id := by
  unfold recordCreation at h
  split at h
  · split at h
    · obtain ⟨_, -, rfl⟩ := List.mem_map.1 h
      rfl
    · cases h
  · cases h

theorem id_destructive? (h : destructive? c = some f) : f.id = c.id := by
  unfold destructive? at h
  split at h
  · cases h
  · split at h
    next i hdata =>
      obtain ⟨-, h⟩ := Option.ite_none_right_eq_some.1 h
      cases h
      exact (congrArg Element.id hdata).symm
    · cases h

end Validation

/-- Whatever a validator finds in a change is about the element of its states. -/
theorem Validator.id_of_mem_validate_of_isOfOneElement {v : Validator} {c : Change Element}
    {f : Finding} (hc : c.IsOfOneElement) (hf : f ∈ v.validate [c]) : f.id = c.id := by
  cases v with
  | packages => exact id_of_mem_packages hf
  | records =>
    have hchecks : f ∈ recordUpdate c ∨ f ∈ recordCreation c := by
      simpa [validate, Validation.records] using hf
    exact hchecks.elim (id_of_mem_recordUpdate hc) id_of_mem_recordCreation
  | dataCategories =>
    have hcheck : destructive? c = some f := by
      simpa [validate, Validation.dataCategories, List.mem_filterMap] using hf
    exact id_destructive? hcheck
  | deploySupport types =>
    have hcheck : unsupported? types c = some f := by
      simpa [validate, Validation.deploySupport, List.mem_filterMap] using hf
    exact id_unsupported? hcheck

namespace Validation
variable (vs : List Validator)

/-! ### Whole pipelines -/

theorem isPointwise_run : IsPointwise (run vs) := by
  intro cs f
  simp only [run, List.mem_flatMap]
  constructor
  · rintro ⟨v, hv, hf⟩
    obtain ⟨c, hc, hf⟩ := (v.isPointwise_validate cs f).1 hf
    exact ⟨c, hc, v, hv, hf⟩
  · rintro ⟨c, hc, v, hv, hf⟩
    exact ⟨v, hv, (v.isPointwise_validate cs f).2 ⟨c, hc, hf⟩⟩

theorem id_of_mem_run {c : Change Element} {f : Finding} (hf : f ∈ run vs [c])
    (hblocking : f.isBlocking) : f.id = c.id := by
  obtain ⟨v, -, hf⟩ := List.mem_flatMap.1 hf
  exact v.id_of_mem_validate hf hblocking

variable {vs} in
theorem exists_id_of_mem_run {cs : List (Change Element)} (hcs : ∀ c ∈ cs, c.IsOfOneElement)
    {f : Finding} (hf : f ∈ run vs cs) : ∃ c ∈ cs, f.id = c.id := by
  obtain ⟨c, hc, hf⟩ := (isPointwise_run vs cs f).1 hf
  obtain ⟨v, -, hf⟩ := List.mem_flatMap.1 hf
  exact ⟨c, hc, v.id_of_mem_validate_of_isOfOneElement (hcs c hc) hf⟩

/-- On its own a change is blocked by any error. -/
theorem isBlocked_run_singleton_iff {c : Change Element} :
    isBlocked (run vs [c]) c ↔ ∃ f ∈ run vs [c], f.isBlocking := by
  rw [isBlocked_iff]
  constructor
  · rintro ⟨f, hf, hblocking, -⟩
    exact ⟨f, hf, hblocking⟩
  · rintro ⟨f, hf, hblocking⟩
    exact ⟨f, hf, hblocking, .inl (id_of_mem_run vs hf hblocking)⟩

/-- Together, a change is blocked by those that are blocked on their own and are about its element
or something inside it. -/
theorem isBlocked_run_iff {cs : List (Change Element)} {c : Change Element} :
    isBlocked (run vs cs) c ↔
      ∃ d ∈ cs, (d.id = c.id ∨ c.id.isAbove d.id) ∧ isBlocked (run vs [d]) d := by
  rw [isBlocked_iff]
  simp only [isBlocked_run_singleton_iff]
  constructor
  · rintro ⟨f, hf, hblocking, hid⟩
    obtain ⟨d, hd, hf⟩ := (isPointwise_run vs cs f).1 hf
    rw [id_of_mem_run vs hf hblocking] at hid
    exact ⟨d, hd, hid, f, hf, hblocking⟩
  · rintro ⟨d, hd, hid, f, hf, hblocking⟩
    refine ⟨f, (isPointwise_run vs cs f).2 ⟨d, hd, hf⟩, hblocking, ?_⟩
    rwa [id_of_mem_run vs hf hblocking]

theorem mem_blocked {findings : List Finding} {cs : List (Change Element)} {c : Change Element} :
    c ∈ blocked findings cs ↔ c ∈ cs ∧ isBlocked findings c :=
  List.mem_filter

theorem mem_blocked_run_singleton {c : Change Element} :
    c ∈ blocked (run vs [c]) [c] ↔ isBlocked (run vs [c]) c := by
  rw [mem_blocked, and_iff_right List.mem_cons_self]

/-- Whether a change is blocked depends on the change and on those of the list that lie inside its
element: one of them must be blocked on its own. -/
theorem mem_blocked_run_iff {cs : List (Change Element)} (hids : (cs.map Change.id).Nodup)
    {c : Change Element} (hc : c ∈ cs) :
    c ∈ blocked (run vs cs) cs ↔ c ∈ blocked (run vs [c]) [c] ∨
      ∃ d ∈ cs, c.id.isAbove d.id ∧ d ∈ blocked (run vs [d]) [d] := by
  simp only [mem_blocked_run_singleton]
  rw [mem_blocked, and_iff_right hc, isBlocked_run_iff]
  constructor
  · rintro ⟨d, hd, hid | habove, hblocked⟩
    -- No other change of the list is about the element of `c` itself.
    · obtain rfl := List.inj_on_of_nodup_map hids hd hc hid
      exact .inl hblocked
    · exact .inr ⟨d, hd, habove, hblocked⟩
  · rintro (hblocked | ⟨d, hd, habove, hblocked⟩)
    · exact ⟨c, hc, .inl rfl, hblocked⟩
    · exact ⟨d, hd, .inr habove, hblocked⟩

def invoiceType : ObjectType Element where
  id := .type salesforce "Invoice__c"
  annotations := [(AnnotationKey.metadataType, .text customObject),
    (AnnotationKey.apiName, .text "Invoice__c")]

def scoreField : Field Element where
  parent := invoiceType.id
  name := "ns__Score__c"
  type := .number

def invoiceAndScore : List (Change Element) :=
  [.addition (.objectType invoiceType), .addition (.field scoreField)]

theorem mem_blocked_run_iff_invoice :
    let c : Change Element := .addition (.objectType invoiceType)
    (invoiceAndScore.map Change.id).Nodup ∧ c ∈ invoiceAndScore ∧
      (c ∈ blocked (run Validator.builtIn invoiceAndScore) invoiceAndScore ↔
        c ∈ blocked (run Validator.builtIn [c]) [c] ∨
          ∃ d ∈ invoiceAndScore, c.id.isAbove d.id ∧
            d ∈ blocked (run Validator.builtIn [d]) [d]) := by
  intro c
  have hids : (invoiceAndScore.map Change.id).Nodup := by decide
  have hc : c ∈ invoiceAndScore := List.mem_cons_self
  exact ⟨hids, hc, mem_blocked_run_iff Validator.builtIn hids hc⟩

/-- The type could be added alone. Together with the field it is blocked. -/
theorem blocked_invoice_of_score :
    let c : Change Element := .addition (.objectType invoiceType)
    (invoiceAndScore.map Change.id).Nodup ∧ c ∈ invoiceAndScore ∧
      c ∈ blocked (run Validator.builtIn invoiceAndScore) invoiceAndScore ∧
      c ∉ blocked (run Validator.builtIn [c]) [c] := by
  intro c
  have hc : c ∈ invoiceAndScore := List.mem_cons_self
  refine ⟨by decide, hc, mem_blocked.2 ⟨hc, ?_⟩, ?_⟩
  · decide +kernel
  · rw [mem_blocked_run_singleton]
    decide +kernel

/-! ### What is let through -/

theorem mem_deployable {findings : List Finding} {cs : List (Change Element)} {c : Change Element} :
    c ∈ deployable findings cs ↔ c ∈ cs ∧ ¬ isBlocked findings c := by
  rw [deployable, List.mem_filter, Bool.not_eq_true', Bool.not_eq_true]

theorem deployable_append_blocked_perm (findings : List Finding) (cs : List (Change Element)) :
    (deployable findings cs ++ blocked findings cs).Perm cs := by
  have hperm := List.filter_append_perm (!isBlocked findings ·) cs
  simp only [Bool.not_not] at hperm
  exact hperm

/-- A change that was let through has no error, whichever changes are taken away beside it. -/
theorem not_isBlocking_of_mem_run_deployable {cs : List (Change Element)} {f : Finding}
    (hf : f ∈ run vs (deployable (run vs cs) cs)) : ¬ f.isBlocking := by
  intro hblocking
  obtain ⟨c, hc, hf⟩ := (isPointwise_run vs _ f).1 hf
  obtain ⟨hc, hfree⟩ := mem_deployable.1 hc
  have hfound : f ∈ run vs cs := (isPointwise_run vs cs f).2 ⟨c, hc, hf⟩
  exact hfree (isBlocked_of_mem hfound hblocking (id_of_mem_run vs hf hblocking))

/-- Validation splits the changes in two, each part in the order of the list. The changes with an
error and those whose elements they lie inside are held back. Validated again, the others have no
error and all go through. -/
theorem run_deployable_stable (cs : List (Change Element)) :
    let kept := deployable (run vs cs) cs
    let held := blocked (run vs cs) cs
    kept.Sublist cs ∧ held.Sublist cs ∧ (kept ++ held).Perm cs ∧
      (∀ c ∈ cs, c ∈ held ↔
        ∃ d ∈ cs, (d.id = c.id ∨ c.id.isAbove d.id) ∧ ∃ f ∈ run vs [d], f.isBlocking) ∧
      (∀ f ∈ run vs kept, ¬ f.isBlocking) ∧ blocked (run vs kept) kept = [] := by
  intro kept held
  have hclean : ∀ f ∈ run vs kept, ¬ f.isBlocking :=
    fun f hf => not_isBlocking_of_mem_run_deployable vs hf
  refine ⟨List.filter_sublist, List.filter_sublist, deployable_append_blocked_perm _ cs, ?_, hclean,
    ?_⟩
  · intro c hc
    rw [mem_blocked, and_iff_right hc, isBlocked_run_iff]
    simp only [isBlocked_run_singleton_iff]
  · rw [blocked, List.filter_eq_nil_iff]
    intro c _ hblocked
    obtain ⟨f, hf, hblocking, -⟩ := isBlocked_iff.1 hblocked
    exact hclean f hf hblocking

end Validation

end ElementSync
