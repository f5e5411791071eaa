import ElementSync.Change.Group
import ElementSync.Proofs.Change.Outline
import Mathlib.Data.List.Basic
import Mathlib.Data.List.Perm.Basic

/-!
# The changes of instances in a group and the others

A group is parted by what its changes hold, and each part keeps the order of the group. A change
that makes an instance of something else holds an instance, but is no change of an instance, and
goes missing. Since both its states have one id, that something is an object type with the id of an
instance.
-/

namespace ElementSync

def Change.becomesInst : Change Element → Bool
  | modification b a => !b.isInst && a.isInst
  | _ => false

namespace Change

/-- A change comes back from the change of a record that it is taken for, if it is taken for one. -/
theorem map_toChange_toRecord (c : Change Element) :
    c.toRecord.toOption.map RecordChange.toChange =
      Option.guard (fun c => c.data.isInst && !c.becomesInst) c := by
  cases c with
  | addition a => cases a <;> rfl
  | removal b => cases b <;> rfl
  | modification b a => cases b <;> cases a <;> rfl

theorem isInst_of_becomesInst {c : Change Element} (h : c.becomesInst) : c.data.isInst := by
  cases c with
  | modification b a => exact (Bool.and_eq_true_iff.1 h).2
  | _ => cases h

theorem id_eq_of_ofStates {before after : Option Element} {b a : Element}
    (h : ofStates before after = .ok (modification b a)) : b.id = a.id := by
  cases before with
  | none => cases after <;> cases h
  | some b' =>
    cases after with
    | none => cases h
    | some a' =>
      rw [ofStates] at h
      split at h
      case isTrue hid => cases h; exact hid
      case isFalse => cases h

/-- Between two states only an object type can become an instance: no field has an instance's id. -/
theorem becomesInst_iff_of_ofStates {c : Change Element} {before after : Option Element}
    (hc : ofStates before after = .ok c) :
    c.becomesInst ↔ ∃ t i, c = .modification (.objectType t) (.inst i) ∧ t.id = i.id := by
  refine ⟨fun h => ?_, ?_⟩
  · cases c with
    | addition a => cases h
    | removal b => cases h
    | modification b a =>
      have hid := id_eq_of_ofStates hc
      cases a with
      | objectType t => cases b <;> cases h
      | field f => cases b <;> cases h
      | inst i =>
        cases b with
        | objectType t => exact ⟨t, i, rfl, hid⟩
        | field f =>
          simp [Element.id, Field.id, Instance.id, ElementId.field, ElementId.inst] at hid
        | inst j => cases h
  · rintro ⟨t, i, rfl, -⟩
    rfl

end Change

namespace ChangeGroup
variable (g : ChangeGroup)

/-- Of the changes that hold an instance those are taken that do not make it of something else. -/
theorem map_toChange_instanceChanges : g.instanceChanges.map RecordChange.toChange =
    (g.changes.filter (·.data.isInst)).filter (!·.becomesInst) := by
  have htaken : (fun c : Change Element => c.toRecord.toOption.map RecordChange.toChange) =
      Option.guard fun c => c.data.isInst && !c.becomesInst :=
    funext Change.map_toChange_toRecord
  rw [instanceChanges, List.map_filterMap, htaken, List.filterMap_eq_filter]
  refine List.filter_congr fun c hc => ?_
  rw [(List.mem_filter.1 hc).2, Bool.true_and]

theorem filter_becomesInst : g.changes.filter Change.becomesInst =
    (g.changes.filter (·.data.isInst)).filter Change.becomesInst := by
  rw [List.filter_filter]
  refine List.filter_congr fun c _ => ?_
  exact (Bool.and_eq_left_iff_imp.2 Change.isInst_of_becomesInst).symm

/-- What is in neither part makes an instance of something else. -/
theorem parts_append_perm : (g.instanceChanges.map RecordChange.toChange ++ g.otherChanges ++
    g.changes.filter Change.becomesInst).Perm g.changes := by
  have hinstances : (g.instanceChanges.map RecordChange.toChange ++
      g.changes.filter Change.becomesInst).Perm (g.changes.filter (·.data.isInst)) := by
    rw [map_toChange_instanceChanges, filter_becomesInst]
    simpa using List.filter_append_perm (!Change.becomesInst ·) (g.changes.filter (·.data.isInst))
  have hlast : (g.instanceChanges.map RecordChange.toChange ++ g.otherChanges ++
      g.changes.filter Change.becomesInst).Perm (g.instanceChanges.map RecordChange.toChange ++
        g.changes.filter Change.becomesInst ++ g.otherChanges) := by
    rw [List.append_assoc, List.append_assoc]
    exact List.perm_append_comm.append_left _
  exact (hlast.trans (hinstances.append_right _)).trans
    (List.filter_append_perm (·.data.isInst) g.changes)

theorem length_parts_eq_iff :
    g.instanceChanges.length + g.otherChanges.length = g.changes.length ↔
      ∀ c ∈ g.changes, ¬ c.becomesInst := by
  have hlength := g.parts_append_perm.length_eq
  rw [List.length_append, List.length_append, List.length_map] at hlength
  rw [← List.filter_eq_nil_iff, ← List.length_eq_zero_iff]
  omega

/-- The parts keep the order of the group. Of changes that lead from one state of an element to
another none is in both parts and only those are in neither that make an instance of an object type
with its id; unless there are such, every change is in one part. -/
theorem parts_miss_only (hstates : ∀ c ∈ g.changes, ∃ before after,
      Change.ofStates before after = .ok c) :
    g.instanceChanges.map RecordChange.toChange =
        g.changes.filter (fun c => c.data.isInst && !c.becomesInst) ∧
      g.otherChanges = g.changes.filter (!·.data.isInst) ∧
      (g.instanceChanges.map RecordChange.toChange ++ g.otherChanges ++
        g.changes.filter Change.becomesInst).Perm g.changes ∧
      (∀ c ∈ g.changes, c.becomesInst ↔
        ∃ t i, c = .modification (.objectType t) (.inst i) ∧ t.id = i.id) ∧
      (g.instanceChanges.length + g.otherChanges.length = g.changes.length ↔
        ∀ c ∈ g.changes, ∀ t i, c ≠ .modification (.objectType t) (.inst i)) := by
  have hmissed : ∀ c ∈ g.changes, c.becomesInst ↔
      ∃ t i, c = .modification (.objectType t) (.inst i) ∧ t.id = i.id := by
    intro c hc
    obtain ⟨before, after, hstate⟩ := hstates c hc
    exact Change.becomesInst_iff_of_ofStates hstate
  refine ⟨?_, rfl, g.parts_append_perm, hmissed, ?_⟩
  · rw [map_toChange_instanceChanges, List.filter_filter]
    exact List.filter_congr fun c _ => Bool.and_comm ..
  · rw [length_parts_eq_iff]
    refine forall₂_congr fun c hc => ⟨?_, fun h hbecomes => ?_⟩
    · rintro h t i rfl
      exact h rfl
    · obtain ⟨t, i, hchange, -⟩ := (hmissed c hc).1 hbecomes
      exact h t i hchange

def account : Instance Element where
  name := "Acme"
  type := { id := .type "salesforce" "Account" }

/-- An account takes the place of an object type with its id, then it comes anew, and its type
goes. -/
def retyped : ChangeGroup where
  id := "accounts"
  changes := [.modification (.objectType { id := account.id }) (.inst account),
    .addition (.inst account), .removal (.objectType account.type)]

theorem ofStates_retyped : ∀ c ∈ retyped.changes, ∃ before after,
    Change.ofStates before after = .ok c := by
  intro c hc
  simp only [retyped, List.mem_cons, List.not_mem_nil, or_false] at hc
  rcases hc with rfl | rfl | rfl
  · refine ⟨some (.objectType { id := account.id }), some (.inst account), ?_⟩
    rw [Change.ofStates]
    exact if_pos rfl
  · exact ⟨none, some _, rfl⟩
  · exact ⟨some _, none, rfl⟩

theorem parts_miss_only_retyped :
    (∀ c ∈ retyped.changes, ∃ before after, Change.ofStates before after = .ok c) ∧
      (retyped.instanceChanges.map RecordChange.toChange ++ retyped.otherChanges ++
        retyped.changes.filter Change.becomesInst).Perm retyped.changes ∧
      (retyped.changes.filter Change.becomesInst).length = 1 := by
  obtain ⟨-, -, hperm, -⟩ := retyped.parts_miss_only ofStates_retyped
  exact ⟨ofStates_retyped, hperm, rfl⟩

/-- Three changes, of which the parts have one each. -/
theorem parts_miss_retyped :
    (∀ c ∈ retyped.changes, ∃ before after, Change.ofStates before after = .ok c) ∧
      retyped.instanceChanges.length = 1 ∧ retyped.otherChanges.length = 1 ∧
      retyped.changes.length = 3 :=
  ⟨ofStates_retyped, rfl, rfl, rfl⟩

end ChangeGroup

end ElementSync
