import ElementSync.Proofs.Identified
import ElementSync.Proofs.Validation.Blocking

/-!
# Findings about one change

A validator goes over the changes several times and puts together what each pass finds. Since a
finding is about the element of the change it was found in, the findings about one element are the
same, and in the same order, as if its change stood alone.
-/

namespace ElementSync

namespace Validation

/-- Without the changes of other elements, the findings about these are missing and nothing else. -/
def IsLocal (check : List (Change Element) → List Finding) : Prop :=
  ∀ cs : List (Change Element), (∀ c ∈ cs, c.IsOfOneElement) → ∀ id : ElementId,
    (check cs).filter (·.id = id) = check (cs.filter (·.id = id))

theorem isLocal_flatMap {check : Change Element → List Finding}
    (hid : ∀ c f, c.IsOfOneElement → f ∈ check c → f.id = c.id) :
    IsLocal (List.flatMap check) := by
  intro cs hcs id
  induction cs with
  | nil => rfl
  | cons c cs ih =>
    have hrest := ih fun d hd => hcs d (List.mem_cons_of_mem c hd)
    have hfirst : ∀ f ∈ check c, f.id = c.id := fun f hf => hid c f (hcs c List.mem_cons_self) hf
    rw [List.flatMap_cons, List.filter_append, hrest]
    by_cases hc : c.id = id
    · have hall : (check c).filter (·.id = id) = check c :=
        List.filter_eq_self.2 fun f hf => decide_eq_true ((hfirst f hf).trans hc)
      rw [hall, List.filter_cons_of_pos (by simpa using hc), List.flatMap_cons]
    · have hnone : (check c).filter (·.id = id) = [] :=
        List.filter_eq_nil_iff.2 fun f hf => by simpa [hfirst f hf] using hc
      rw [hnone, List.filter_cons_of_neg (by simpa using hc), List.nil_append]

theorem isLocal_filterMap {check : Change Element → Option Finding}
    (hid : ∀ c f, check c = some f → f.id = c.id) : IsLocal (List.filterMap check) := by
  have hflat : IsLocal (List.flatMap fun c => (check c).toList) :=
    isLocal_flatMap fun c f _ hf => hid c f (Option.mem_toList.1 hf)
  intro cs
  simpa only [List.filterMap_eq_flatMap_toList] using hflat cs

theorem IsLocal.append {check check' : List (Change Element) → List Finding} (h : IsLocal check)
    (h' : IsLocal check') : IsLocal fun cs => check cs ++ check' cs := by
  intro cs hcs id
  simp only [List.filter_append, h cs hcs id, h' cs hcs id]

end Validation

open Validation

theorem Validator.isLocal_validate (v : Validator) : IsLocal v.validate := by
  cases v with
  | packages =>
    exact (((isLocal_filterMap fun _ _ => id_packageAddOrRemove).append
      (isLocal_filterMap fun _ _ => id_packageModify)).append
      (isLocal_filterMap fun _ _ => id_packageFieldsRemoved)).append
      (isLocal_filterMap fun _ _ => id_packageVersionChanged)
  | records =>
    exact (isLocal_flatMap fun _ _ => id_of_mem_recordUpdate).append
      (isLocal_flatMap fun _ _ _ => id_of_mem_recordCreation)
  | dataCategories => exact isLocal_filterMap fun _ _ => id_destructive?
  | deploySupport types => exact isLocal_filterMap fun _ _ => id_unsupported?

namespace Validation

theorem isLocal_run (vs : List Validator) : IsLocal (run vs) := by
  intro cs hcs id
  rw [run, List.filter_flatMap]
  exact List.flatMap_congr fun v _ => v.isLocal_validate cs hcs id

/-- What a pipeline finds about a change of a list, it finds in the same order in the change alone.
Nothing is found about any other element. -/
theorem findings_of_change (vs : List Validator) {cs : List (Change Element)}
    (hids : (cs.map Change.id).Nodup) (hcs : ∀ c ∈ cs, c.IsOfOneElement) :
    (∀ c ∈ cs, (run vs cs).filter (·.id = c.id) = run vs [c]) ∧
      ∀ f ∈ run vs cs, ∃ c ∈ cs, f.id = c.id := by
  refine ⟨fun c hc => ?_, fun f hf => exists_id_of_mem_run hcs hf⟩
  rw [isLocal_run vs cs hcs c.id, filter_id_eq_singleton hids hc]

def invoiceNumbered (number : String) : Instance Element where
  name := "INV_1"
  type := { invoiceType with
    fields := [{ parent := invoiceType.id, name := "Number__c", type := .string }] }
  value := [("Number__c", .text number)]

def invoiceRenumbered : List (Change Element) :=
  invoiceAndScore ++ [.modification (.inst (invoiceNumbered "1")) (.inst (invoiceNumbered "2"))]

theorem findings_of_change_invoice :
    let vs := Validator.builtIn ++ [.deploySupport []]
    let c : Change Element :=
      .modification (.inst (invoiceNumbered "1")) (.inst (invoiceNumbered "2"))
    (invoiceRenumbered.map Change.id).Nodup ∧ (∀ d ∈ invoiceRenumbered, d.IsOfOneElement) ∧
      c ∈ invoiceRenumbered ∧ (run vs [c]).length = 2 ∧
      (run vs invoiceRenumbered).filter (·.id = c.id) = run vs [c] ∧
      ∀ f ∈ run vs invoiceRenumbered, ∃ d ∈ invoiceRenumbered, f.id = d.id := by
  intro vs c
  have hids : (invoiceRenumbered.map Change.id).Nodup := by decide
  have hcs : ∀ d ∈ invoiceRenumbered, d.IsOfOneElement := by
    simp only [invoiceRenumbered, invoiceAndScore, List.cons_append, List.nil_append,
      List.forall_mem_cons]
    exact ⟨trivial, trivial, rfl, nofun⟩
  have hc : c ∈ invoiceRenumbered := List.mem_append_right _ List.mem_cons_self
  have hfindings := findings_of_change vs hids hcs
  exact ⟨hids, hcs, hc, by decide +kernel, hfindings.1 c hc, hfindings.2⟩

end Validation

end ElementSync
