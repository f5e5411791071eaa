import ElementSync.Proofs.Value.Places
import ElementSync.Proofs.Value.References

/-!
# Leaves and their places

Listing the leaves of a tree finds each of them once for every place that it stands in, under the
path of the place. The leaves of what stands in a place are found next to each other.
-/

namespace ElementSync
variable {η : Type}

namespace Value

@[simp] theorem leaves_value (path : Path) (l : Leaf η) : l.value.leaves path = [(path, l)] := by
  cases l <;> rw [Leaf.value, leaves]

theorem entryLeaves_append (path : Path) (es es' : Values η) :
    entryLeaves path (es ++ es') = entryLeaves path es ++ entryLeaves path es' := by
  rw [entryLeaves_eq_flatMap, entryLeaves_eq_flatMap, entryLeaves_eq_flatMap, List.flatMap_append]

theorem itemLeaves_append (path : Path) (i : UInt64) (vs ws : List (Value η)) :
    itemLeaves path i (vs ++ ws) =
      itemLeaves path i vs ++ itemLeaves path (i + UInt64.ofNat vs.length) ws := by
  induction vs generalizing i with
  | nil => simp [itemLeaves]
  | cons v vs ih =>
    have hposition : i + 1 + UInt64.ofNat vs.length = i + UInt64.ofNat (v :: vs).length := by
      rw [List.length_cons, UInt64.ofNat_add, UInt64.add_assoc, UInt64.add_comm 1]
      rfl
    rw [List.cons_append, itemLeaves, itemLeaves, ih, hposition, List.append_assoc]

end Value

theorem Surroundings.exists_leaves_fill (s : Surroundings η) (path : Path) (v : Value η) :
    ∃ before after, (s.fill v).leaves path = before ++ v.leaves (path ++ s.path) ++ after := by
  induction s generalizing path with
  | here => exact ⟨[], [], by simp [fill, Surroundings.path]⟩
  | entry before key inner after ih =>
    obtain ⟨ls, ms, hinner⟩ := ih (path ++ [key])
    refine ⟨Value.entryLeaves path before ++ ls, ms ++ Value.entryLeaves path after, ?_⟩
    rw [fill, Value.leaves, Value.entryLeaves_append, Value.entryLeaves, hinner, Surroundings.path]
    simp only [List.append_assoc, List.singleton_append]
  | item before inner after ih =>
    let i := UInt64.ofNat before.length
    obtain ⟨ls, ms, hinner⟩ := ih (path ++ [toString i])
    refine ⟨Value.itemLeaves path 0 before ++ ls, ms ++ Value.itemLeaves path (i + 1) after, ?_⟩
    rw [fill, Value.leaves, Value.itemLeaves_append, Value.itemLeaves, UInt64.zero_add, hinner,
      Surroundings.path]
    simp only [List.append_assoc, List.singleton_append]
    rfl

namespace Value

mutual
theorem exists_place_of_mem_leaves (path : Path) (v : Value η) (l : Path × Leaf η)
    (h : l ∈ v.leaves path) :
    ∃ s : Surroundings η, v = s.fill l.2.value ∧ l.1 = path ++ s.path := by
  cases v with
  | mapping es =>
    rw [leaves] at h
    obtain ⟨before, key, inner, after, rfl, hpath⟩ := exists_place_of_mem_entryLeaves path es l h
    exact ⟨.entry before key inner after, rfl, hpath⟩
  | sequence vs =>
    rw [leaves] at h
    obtain ⟨before, inner, after, rfl, hpath⟩ := exists_place_of_mem_itemLeaves path 0 vs l h
    rw [UInt64.zero_add] at hpath
    exact ⟨.item before inner after, rfl, hpath⟩
  | _ =>
    rw [leaves] at h
    obtain rfl := List.mem_singleton.1 h
    exact ⟨.here, rfl, (List.append_nil path).symm⟩

theorem exists_place_of_mem_entryLeaves (path : Path) (es : List (String × Value η))
    (l : Path × Leaf η) (h : l ∈ entryLeaves path es) :
    ∃ before key, ∃ inner : Surroundings η, ∃ after,
      es = before ++ (key, inner.fill l.2.value) :: after ∧ l.1 = path ++ key :: inner.path := by
  cases es with
  | nil =>
    rw [entryLeaves] at h
    cases h
  | cons e es =>
    obtain ⟨key, v⟩ := e
    rw [entryLeaves] at h
    rcases List.mem_append.1 h with h | h
    · obtain ⟨inner, rfl, hpath⟩ := exists_place_of_mem_leaves (path ++ [key]) v l h
      exact ⟨[], key, inner, es, rfl, by rw [hpath, List.append_assoc]; rfl⟩
    · obtain ⟨before, key', inner, after, rfl, hpath⟩ := exists_place_of_mem_entryLeaves path es l h
      exact ⟨(key, v) :: before, key', inner, after, rfl, hpath⟩

theorem exists_place_of_mem_itemLeaves (path : Path) (i : UInt64) (vs : List (Value η))
    (l : Path × Leaf η) (h : l ∈ itemLeaves path i vs) :
    ∃ before, ∃ inner : Surroundings η, ∃ after, vs = before ++ inner.fill l.2.value :: after ∧
      l.1 = path ++ toString (i + UInt64.ofNat before.length) :: inner.path := by
  cases vs with
  | nil =>
    rw [itemLeaves] at h
    cases h
  | cons v vs =>
    rw [itemLeaves] at h
    rcases List.mem_append.1 h with h | h
    · obtain ⟨inner, rfl, hpath⟩ := exists_place_of_mem_leaves (path ++ [toString i]) v l h
      have hposition : i + UInt64.ofNat ([] : List (Value η)).length = i := UInt64.add_zero i
      exact ⟨[], inner, vs, rfl, by rw [hpath, hposition, List.append_assoc]; rfl⟩
    · obtain ⟨before, inner, after, rfl, hpath⟩ :=
        exists_place_of_mem_itemLeaves path (i + 1) vs l h
      refine ⟨v :: before, inner, after, rfl, ?_⟩
      rw [hpath, List.length_cons, UInt64.ofNat_add, UInt64.add_assoc, UInt64.add_comm 1]
      rfl
end

/-- A leaf is listed under the paths of the places that it stands in. -/
theorem mem_leaves_iff {path : Path} {v : Value η} {l : Path × Leaf η} :
    l ∈ v.leaves path ↔
      ∃ s : Surroundings η, v = s.fill l.2.value ∧ l.1 = path ++ s.path := by
  constructor
  · exact exists_place_of_mem_leaves path v l
  · obtain ⟨p, l⟩ := l
    rintro ⟨s, rfl, rfl⟩
    obtain ⟨before, after, hleaves⟩ := s.exists_leaves_fill path l.value
    rw [hleaves, leaves_value]
    exact List.mem_append_left _ (List.mem_append_right _ List.mem_cons_self)

def HasLeaf (v : Value η) (l : Leaf η) : Prop := ∃ s : Surroundings η, v = s.fill l.value

/-- What all leaves of a tree are like can be read off the list of leaves, under any path. -/
theorem forall_hasLeaf_iff (path : Path) {v : Value η} {P : Leaf η → Prop} :
    (∀ l, v.HasLeaf l → P l) ↔ ∀ l ∈ v.leaves path, P l.2 := by
  constructor
  · intro h l hl
    obtain ⟨s, hv, -⟩ := mem_leaves_iff.1 hl
    exact h l.2 ⟨s, hv⟩
  · rintro h l ⟨s, rfl⟩
    exact h (path ++ s.path, l) (mem_leaves_iff.2 ⟨s, rfl, rfl⟩)

end Value

end ElementSync
