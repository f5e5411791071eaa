import Mathlib.Data.List.Nodup
import Mathlib.Data.List.Perm.Basic

/-!
# Lists of items with ids

Items are looked for by an id, and parted by it. Where the ids are distinct an id picks out one
item, and parting a list by ids that cover it loses nothing.
-/

namespace ElementSync

variable {α κ : Type} [DecidableEq κ] {id : α → κ} {l : List α}

theorem filter_id_eq_singleton (hids : (l.map id).Nodup) {a : α} (ha : a ∈ l) :
    l.filter (id · = id a) = [a] := by
  induction l with
  | nil => cases ha
  | cons b l ih =>
    obtain ⟨hb, hids⟩ := List.nodup_cons.1 hids
    rcases List.mem_cons.1 ha with rfl | ha
    · have hothers : l.filter (id · = id a) = [] :=
        List.filter_eq_nil_iff.2 fun c hc => by
          have hne : id c ≠ id a := fun h => hb (List.mem_map.2 ⟨c, hc, h⟩)
          simpa using hne
      rw [List.filter_cons_of_pos (by simp), hothers]
    · have hne : id b ≠ id a := fun h => hb (List.mem_map.2 ⟨a, ha, h.symm⟩)
      rw [List.filter_cons_of_neg (by simpa using hne), ih hids ha]

theorem nodup_ids_iff_length_filter : (l.map id).Nodup ↔
    ∀ i, (l.filter (id · = i)).length ≤ 1 := by
  have hcount : ∀ i, (l.map id).count i = (l.filter (id · = i)).length := by
    intro i
    rw [List.count_eq_length_filter, List.filter_map, List.length_map]
    rfl
  simp only [List.nodup_iff_count_le_one, hcount]

/-- A list that is parted by ids that are distinct and cover it loses nothing. -/
theorem flatMap_filter_perm {is : List κ} (his : is.Nodup) (hl : ∀ a ∈ l, id a ∈ is) :
    (is.flatMap fun i => l.filter (id · = i)).Perm l := by
  induction is generalizing l with
  | nil =>
    obtain rfl : l = [] := List.eq_nil_iff_forall_not_mem.2 fun a ha => by cases hl a ha
    exact .nil
  | cons i is ih =>
    obtain ⟨hi, his⟩ := List.nodup_cons.1 his
    -- the later ids part what the first one leaves
    let rest := l.filter fun a => !decide (id a = i)
    have hrest : ∀ a ∈ rest, id a ∈ is := by
      intro a ha
      obtain ⟨hmem, hne⟩ := List.mem_filter.1 ha
      exact (List.mem_cons.1 (hl a hmem)).resolve_left (by simpa using hne)
    have hlater : ∀ j ∈ is, l.filter (id · = j) = rest.filter (id · = j) := by
      intro j hj
      have hji : j ≠ i := fun h => hi (h ▸ hj)
      rw [List.filter_filter]
      refine List.filter_congr fun a _ => ?_
      by_cases ha : id a = j
      · simp [ha, hji]
      · simp [ha]
    have hflat : (is.flatMap fun j => l.filter (id · = j)) =
        is.flatMap fun j => rest.filter (id · = j) := by
      rw [List.flatMap_def, List.flatMap_def, List.map_congr_left hlater]
    rw [List.flatMap_cons, hflat]
    exact ((ih his hrest).append_left _).trans (List.filter_append_perm _ l)

end ElementSync
