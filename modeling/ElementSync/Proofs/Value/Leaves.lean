import ElementSync.Value.Leaves

/-!
# Entries and items of a tree whose leaves were replaced

Replacing the leaves brings no key in, and what is found first under a key stays the first. So a
key with a scalar that is kept is found as before. The items of a sequence are replaced one by one,
each at the position that it had.
-/

namespace ElementSync

theorem Value.eq_text_of_text? {η : Type} {v : Value η} {s : String} (h : v.text? = some s) :
    v = .text s := by
  cases v with
  | scalar t =>
    cases t with
    | text u => rw [Option.some.inj h]; rfl
    | _ => cases h
  | _ => cases h

namespace Values
variable {η : Type} (f : Path → Leaf η → Option (Value η)) (path : Path)

abbrev mapEntries (es : Values η) : Values η := Value.mapEntriesM (m := Id) f path es

@[simp] theorem mapEntries_nil : mapEntries f path [] = [] := by
  rw [mapEntries, Value.mapEntriesM]
  rfl

theorem mapEntries_cons (k : String) (v : Value η) (es : Values η) :
    mapEntries f path ((k, v) :: es) =
      (Value.mapLeavesM (m := Id) f (path ++ [k]) v).elim (mapEntries f path es)
        fun w => (k, w) :: mapEntries f path es := by
  rw [mapEntries, Value.mapEntriesM]
  rfl

theorem mapEntries_append (es es' : Values η) :
    mapEntries f path (es ++ es') = mapEntries f path es ++ mapEntries f path es' := by
  induction es with
  | nil => simp
  | cons e es ih =>
    rw [List.cons_append, mapEntries_cons, mapEntries_cons, ih]
    cases Value.mapLeavesM (m := Id) f (path ++ [e.1]) e.2 <;> rfl

variable {f path}

theorem lookup_mapEntries_of_none {es : Values η} {k : String} (h : es.lookup k = none) :
    (mapEntries f path es).lookup k = none := by
  induction es with
  | nil => simp
  | cons e es ih =>
    obtain ⟨l, v⟩ := e
    rw [Assoc.lookup_cons_eq_ite] at h
    by_cases hkl : k = l
    · simp [hkl] at h
    · rw [if_neg hkl] at h
      rw [mapEntries_cons]
      cases Value.mapLeavesM (m := Id) f (path ++ [l]) v with
      | none => exact ih h
      | some w =>
        rw [Option.elim_some, Assoc.lookup_cons_eq_ite, if_neg hkl]
        exact ih h

theorem lookup_mapEntries_of_scalar {es : Values η} {k : String} {s : Scalar}
    (hf : ∀ p, f p (.scalar s) = some (.scalar s)) (h : es.lookup k = some (.scalar s)) :
    (mapEntries f path es).lookup k = some (.scalar s) := by
  induction es with
  | nil => simp at h
  | cons e es ih =>
    obtain ⟨l, v⟩ := e
    rw [Assoc.lookup_cons_eq_ite] at h
    rw [mapEntries_cons]
    by_cases hkl : k = l
    · rw [if_pos hkl] at h
      rw [Option.some.inj h, Value.mapLeavesM, hf, Option.elim_some, Assoc.lookup_cons_eq_ite,
        if_pos hkl]
    · rw [if_neg hkl] at h
      cases Value.mapLeavesM (m := Id) f (path ++ [l]) v with
      | none => exact ih h
      | some w =>
        rw [Option.elim_some, Assoc.lookup_cons_eq_ite, if_neg hkl]
        exact ih h

/-- When no key stands twice, what becomes of an entry is what becomes of its value. -/
theorem lookup_mapEntries {es : Values η} (hkeys : (Assoc.keys es).Nodup) (k : String) :
    (mapEntries f path es).lookup k =
      (es.lookup k).bind fun v => Value.mapLeavesM (m := Id) f (path ++ [k]) v := by
  induction es with
  | nil => simp
  | cons e es ih =>
    obtain ⟨l, v⟩ := e
    obtain ⟨hl, hkeys⟩ := List.nodup_cons.1 hkeys
    have hrest : k = l → (mapEntries f path es).lookup k = none := by
      rintro rfl
      apply lookup_mapEntries_of_none
      rw [List.lookup_eq_none_iff]
      intro e he
      have hmem : e.1 ∈ Assoc.keys es := List.mem_map_of_mem he
      have hne : k ≠ e.1 := fun h => hl (h ▸ hmem)
      simpa using hne
    rw [mapEntries_cons, Assoc.lookup_cons_eq_ite]
    cases hv : Value.mapLeavesM (m := Id) f (path ++ [l]) v with
    | none =>
      by_cases hkl : k = l
      · rw [if_pos hkl, Option.bind_some, hkl, hv, Option.elim_none, ← hkl, hrest hkl]
      · rw [if_neg hkl, Option.elim_none, ih hkeys]
    | some w =>
      rw [Option.elim_some, Assoc.lookup_cons_eq_ite]
      by_cases hkl : k = l
      · rw [if_pos hkl, if_pos hkl, Option.bind_some, hkl, hv]
      · rw [if_neg hkl, if_neg hkl, ih hkeys]

/-- A value may give way to another one that becomes the same. -/
theorem mapEntries_put {es : Values η} {k : String} {v w : Value η} (hv : es.lookup k = some v)
    (hw : Value.mapLeavesM (m := Id) f (path ++ [k]) w =
      Value.mapLeavesM (m := Id) f (path ++ [k]) v) :
    mapEntries f path (Assoc.put es k w) = mapEntries f path es := by
  induction es with
  | nil => simp at hv
  | cons e es ih =>
    obtain ⟨l, u⟩ := e
    rw [Assoc.lookup_cons_eq_ite] at hv
    by_cases hkl : k = l
    · rw [if_pos hkl] at hv
      cases hv
      subst hkl
      rw [Assoc.put, if_pos rfl, mapEntries_cons, mapEntries_cons, hw]
    · rw [if_neg hkl] at hv
      rw [Assoc.put, if_neg (Ne.symm hkl), mapEntries_cons, mapEntries_cons, ih hv]

end Values

namespace Value
variable {η : Type} (f : Path → Leaf η → Option (Value η)) (path : Path) (i : UInt64)

abbrev mapItems (vs : List (Value η)) : List (Value η) := mapItemsM (m := Id) f path i vs

@[simp] theorem mapItems_nil : mapItems f path i [] = [] := by
  rw [mapItems, mapItemsM]
  rfl

theorem mapItems_cons (v : Value η) (vs : List (Value η)) :
    mapItems f path i (v :: vs) =
      (mapLeavesM (m := Id) f (path ++ [toString i]) v).elim (mapItems f path (i + 1) vs)
        fun w => w :: mapItems f path (i + 1) vs := by
  rw [mapItems, mapItemsM]
  rfl

theorem mapItems_append (vs ws : List (Value η)) :
    mapItems f path i (vs ++ ws) =
      mapItems f path i vs ++ mapItems f path (i + UInt64.ofNat vs.length) ws := by
  induction vs generalizing i with
  | nil => simp
  | cons v vs ih =>
    have hposition : i + 1 + UInt64.ofNat vs.length = i + UInt64.ofNat (v :: vs).length := by
      rw [List.length_cons, UInt64.ofNat_add, UInt64.add_assoc, UInt64.add_comm 1]
      rfl
    rw [List.cons_append, mapItems_cons, mapItems_cons, ih, hposition]
    cases mapLeavesM (m := Id) f (path ++ [toString i]) v <;> rfl

end Value

end ElementSync
