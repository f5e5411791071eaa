import ElementSync.Graph
import Mathlib.Data.List.Nodup

/-!
# Graphs of elements with distinct ids

Elements make up a graph exactly when no two of them have one id. Whatever id an element of the
graph has, the graph resolves it.
-/

namespace ElementSync

variable {ds es : List Element}

/-- Lists of elements go together when none of the second has the id of one of the first. -/
theorem Element.nodup_ids_append : ((ds ++ es).map id).Nodup ↔
    (ds.map id).Nodup ∧ (es.map id).Nodup ∧ ∀ e ∈ es, e.id ∉ ds.map id := by
  rw [List.map_append, List.nodup_append]
  refine and_congr_right fun _ => and_congr_right fun _ => ?_
  constructor
  · exact fun h e he hmem => h _ hmem _ (List.mem_map_of_mem he) rfl
  · rintro h i hi j hj rfl
    obtain ⟨e, he, rfl⟩ := List.mem_map.1 hj
    exact h e he hi

namespace ElementGraph

theorem foldlM_insert_of_nodup (h : ((ds ++ es).map Element.id).Nodup) :
    es.foldlM insert ⟨ds⟩ = .ok ⟨ds ++ es⟩ := by
  -- the elements that are in already stay general, for each step moves one over to them
  induction es generalizing ds with
  | nil => rw [List.append_nil]; rfl
  | cons e es ih =>
    have hnew : e.id ∉ (⟨ds⟩ : ElementGraph).ids :=
      (Element.nodup_ids_append.1 h).2.2 e List.mem_cons_self
    rw [List.append_cons] at h ⊢
    rw [List.foldlM_cons, insert, if_neg hnew]
    exact ih h

/-- The first element whose id is there already ends the making of the graph. -/
theorem exists_foldlM_insert_eq_error (hds : (ds.map Element.id).Nodup)
    (h : ¬ ((ds ++ es).map Element.id).Nodup) :
    ∃ id, es.foldlM insert ⟨ds⟩ = .error (.duplicate id) := by
  induction es generalizing ds with
  | nil => exact absurd (by rwa [List.append_nil]) h
  | cons e es ih =>
    rw [List.foldlM_cons, insert]
    by_cases hold : e.id ∈ (⟨ds⟩ : ElementGraph).ids
    · rw [if_pos hold]
      exact ⟨e.id, rfl⟩
    · rw [if_neg hold]
      rw [List.append_cons] at h
      refine ih (Element.nodup_ids_append.2 ⟨hds, List.nodup_singleton _, ?_⟩) h
      exact List.forall_mem_singleton.2 hold

theorem ofElements_of_nodup (h : (es.map Element.id).Nodup) : ofElements es = .ok ⟨es⟩ :=
  foldlM_insert_of_nodup h

theorem exists_ofElements_eq_error (h : ¬ (es.map Element.id).Nodup) :
    ∃ id, ofElements es = .error (.duplicate id) :=
  exists_foldlM_insert_eq_error List.nodup_nil h

section
variable {g : ElementGraph} {id : ElementId} {e : Element}

theorem mem_elements_of_stored? (h : g.stored? id = some e) : e ∈ g.elements ∧ e.id = id :=
  ⟨List.mem_of_find?_eq_some h, by simpa using List.find?_some h⟩

theorem stored?_eq_none_iff : g.stored? id = none ↔ id ∉ g.ids := by
  simp [stored?, ids]

theorem exists_resolve_of_mem_ids (h : id ∈ g.ids) :
    ∃ e, g.resolve id = some e ∧ e.id = id := by
  cases hstored : g.stored? id with
  | none => exact absurd h (stored?_eq_none_iff.1 hstored)
  | some e => exact ⟨e, by rw [resolve, hstored], (mem_elements_of_stored? hstored).2⟩

end

end ElementGraph

end ElementSync
