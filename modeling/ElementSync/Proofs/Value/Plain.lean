import ElementSync.Proofs.Value.Leaves
import ElementSync.Value.Json

/-!
# Plain trees

A tree is plain when all its leaves are scalars, so that it holds no reference and no template at
any depth. Exactly the plain trees can be written as JSON. Putting a scalar or nothing in the place of
every leaf makes any tree plain, and a plain tree changes only where scalars do.
-/

namespace ElementSync
variable {η : Type}

def Leaf.AllScalars (ls : List (Path × Leaf η)) : Prop := ∀ l ∈ ls, ∃ s, l.2 = .scalar s

def Values.IsPlain (vs : Values η) : Prop := Leaf.AllScalars vs.leaves

namespace Leaf

@[simp] theorem allScalars_nil : AllScalars ([] : List (Path × Leaf η)) := by
  simp [AllScalars]

@[simp] theorem allScalars_singleton {path : Path} {l : Leaf η} :
    AllScalars [(path, l)] ↔ ∃ s, l = .scalar s := by
  simp [AllScalars]

@[simp] theorem allScalars_append {ls ms : List (Path × Leaf η)} :
    AllScalars (ls ++ ms) ↔ AllScalars ls ∧ AllScalars ms :=
  List.forall_mem_append

end Leaf

namespace Value

theorem isOk_toItems_cons (v : Value η) (items : List (Value η)) :
    (toItems (v :: items)).isOk = (v.toJson.isOk && (toItems items).isOk) := by
  rw [toItems]
  cases v.toJson with
  | error e => rfl
  | ok j => cases toItems items <;> rfl

theorem isOk_toEntries_cons (k : String) (v : Value η) (entries : List (String × Value η)) :
    (toEntries ((k, v) :: entries)).isOk = (v.toJson.isOk && (toEntries entries).isOk) := by
  rw [toEntries]
  cases v.toJson with
  | error e => rfl
  | ok j => cases toEntries entries <;> rfl

mutual
theorem isOk_toJson_iff (path : Path) (v : Value η) :
    v.toJson.isOk ↔ Leaf.AllScalars (v.leaves path) := by
  cases v with
  | scalar s => simp [toJson, leaves, Except.isOk, Except.toBool]
  | reference r => simp [toJson, leaves, Except.isOk, Except.toBool]
  | template t => simp [toJson, leaves, Except.isOk, Except.toBool]
  | mapping entries =>
    rw [leaves, ← isOk_toEntries_iff path entries, toJson]
    cases toEntries entries <;> rfl
  | sequence items =>
    rw [leaves, ← isOk_toItems_iff path 0 items, toJson]
    cases toItems items <;> rfl

theorem isOk_toEntries_iff (path : Path) (entries : List (String × Value η)) :
    (toEntries entries).isOk ↔ Leaf.AllScalars (entryLeaves path entries) := by
  cases entries with
  | nil =>
    rw [toEntries, entryLeaves]
    exact iff_of_true rfl Leaf.allScalars_nil
  | cons e entries =>
    rw [entryLeaves, Leaf.allScalars_append, ← isOk_toJson_iff (path ++ [e.1]) e.2,
      ← isOk_toEntries_iff path entries, isOk_toEntries_cons, Bool.and_eq_true]

theorem isOk_toItems_iff (path : Path) (i : UInt64) (items : List (Value η)) :
    (toItems items).isOk ↔ Leaf.AllScalars (itemLeaves path i items) := by
  cases items with
  | nil =>
    rw [toItems, itemLeaves]
    exact iff_of_true rfl Leaf.allScalars_nil
  | cons v items =>
    rw [itemLeaves, Leaf.allScalars_append, ← isOk_toJson_iff (path ++ [toString i]) v,
      ← isOk_toItems_iff path (i + 1) items, isOk_toItems_cons, Bool.and_eq_true]
end

def GivesScalars (f : Path → Leaf η → Option (Value η)) : Prop :=
  ∀ path l v, f path l = some v → ∃ s, v = .scalar s

section
variable {f : Path → Leaf η → Option (Value η)}

theorem allScalars_leaves_of_leaf (hf : GivesScalars f) {path path' : Path} {l : Leaf η}
    {w : Value η} (h : f path l = some w) : Leaf.AllScalars (w.leaves path') := by
  obtain ⟨s, rfl⟩ := hf path l w h
  rw [leaves, Leaf.allScalars_singleton]
  exact ⟨s, rfl⟩

/- The paths of the new leaves play no part: an item that goes shifts those behind it. -/
mutual
theorem allScalars_leaves_mapLeavesM (hf : GivesScalars f) (path path' : Path) (v : Value η)
    (w : Value η) (h : mapLeavesM (m := Id) f path v = some w) :
    Leaf.AllScalars (w.leaves path') := by
  cases v with
  | scalar s => exact allScalars_leaves_of_leaf hf (by rwa [mapLeavesM] at h)
  | reference r => exact allScalars_leaves_of_leaf hf (by rwa [mapLeavesM] at h)
  | template t => exact allScalars_leaves_of_leaf hf (by rwa [mapLeavesM] at h)
  | mapping entries =>
    rw [mapLeavesM] at h
    cases h
    rw [leaves]
    exact allScalars_leaves_mapEntriesM hf path path' entries
  | sequence items =>
    rw [mapLeavesM] at h
    cases h
    rw [leaves]
    exact allScalars_leaves_mapItemsM hf path path' 0 0 items

theorem allScalars_leaves_mapEntriesM (hf : GivesScalars f) (path path' : Path)
    (entries : List (String × Value η)) :
    Leaf.AllScalars (entryLeaves path' (mapEntriesM (m := Id) f path entries)) := by
  cases entries with
  | nil =>
    rw [mapEntriesM]
    exact Leaf.allScalars_nil
  | cons e entries =>
    have hrest := allScalars_leaves_mapEntriesM hf path path' entries
    have hcons := Values.mapEntries_cons f path e.1 e.2 entries
    rw [Values.mapEntries] at hcons
    rw [hcons]
    cases hkept : mapLeavesM (m := Id) f (path ++ [e.1]) e.2 with
    | none => exact hrest
    | some w =>
      rw [Option.elim_some, entryLeaves, Leaf.allScalars_append]
      exact ⟨allScalars_leaves_mapLeavesM hf (path ++ [e.1]) _ e.2 w hkept, hrest⟩

theorem allScalars_leaves_mapItemsM (hf : GivesScalars f) (path path' : Path) (i j : UInt64)
    (items : List (Value η)) :
    Leaf.AllScalars (itemLeaves path' j (mapItemsM (m := Id) f path i items)) := by
  cases items with
  | nil =>
    rw [mapItemsM]
    exact Leaf.allScalars_nil
  | cons v items =>
    have hcons := mapItems_cons f path i v items
    rw [mapItems] at hcons
    rw [hcons]
    cases hkept : mapLeavesM (m := Id) f (path ++ [toString i]) v with
    | none => exact allScalars_leaves_mapItemsM hf path path' (i + 1) j items
    | some w =>
      rw [Option.elim_some, itemLeaves, Leaf.allScalars_append]
      exact ⟨allScalars_leaves_mapLeavesM hf (path ++ [toString i]) _ v w hkept,
        allScalars_leaves_mapItemsM hf path path' (i + 1) (j + 1) items⟩
end

def KeepsScalars (f : Path → Leaf η → Option (Value η)) : Prop :=
  ∀ path s, f path (.scalar s) = some (.scalar s)

mutual
theorem mapLeavesM_of_allScalars (hf : KeepsScalars f) (path path' : Path) (v : Value η)
    (h : Leaf.AllScalars (v.leaves path')) : mapLeavesM (m := Id) f path v = some v := by
  cases v with
  | scalar s =>
    rw [mapLeavesM]
    exact hf path s
  | reference r =>
    rw [leaves, Leaf.allScalars_singleton] at h
    obtain ⟨s, hs⟩ := h
    cases hs
  | template t =>
    rw [leaves, Leaf.allScalars_singleton] at h
    obtain ⟨s, hs⟩ := h
    cases hs
  | mapping es =>
    rw [leaves] at h
    rw [mapLeavesM, mapEntriesM_of_allScalars hf path path' es h]
    rfl
  | sequence vs =>
    rw [leaves] at h
    rw [mapLeavesM, mapItemsM_of_allScalars hf path path' 0 0 vs h]
    rfl

theorem mapEntriesM_of_allScalars (hf : KeepsScalars f) (path path' : Path)
    (es : List (String × Value η)) (h : Leaf.AllScalars (entryLeaves path' es)) :
    mapEntriesM (m := Id) f path es = es := by
  cases es with
  | nil => rw [mapEntriesM]; rfl
  | cons e es =>
    rw [entryLeaves, Leaf.allScalars_append] at h
    rw [mapEntriesM, mapLeavesM_of_allScalars hf (path ++ [e.1]) _ e.2 h.1,
      mapEntriesM_of_allScalars hf path path' es h.2]
    rfl

theorem mapItemsM_of_allScalars (hf : KeepsScalars f) (path path' : Path) (i j : UInt64)
    (vs : List (Value η)) (h : Leaf.AllScalars (itemLeaves path' j vs)) :
    mapItemsM (m := Id) f path i vs = vs := by
  cases vs with
  | nil => rw [mapItemsM]; rfl
  | cons v vs =>
    rw [itemLeaves, Leaf.allScalars_append] at h
    rw [mapItemsM, mapLeavesM_of_allScalars hf (path ++ [toString i]) _ v h.1,
      mapItemsM_of_allScalars hf path path' (i + 1) (j + 1) vs h.2]
    rfl
end

end

end Value

namespace Values

theorem exists_toRecord_iff (vs : Values η) : (∃ r, vs.toRecord = .ok r) ↔ vs.IsPlain := by
  have hok := Value.isOk_toEntries_iff [] vs
  rw [IsPlain, leaves, ← hok, toRecord]
  cases Value.toEntries vs with
  | error e => exact iff_of_false nofun nofun
  | ok r => exact iff_of_true ⟨r, rfl⟩ rfl

theorem allScalars_leaves_of_lookup {path : Path} {vs : Values η}
    (h : Leaf.AllScalars (Value.entryLeaves path vs)) {k : String} {v : Value η}
    (hv : vs.lookup k = some v) : Leaf.AllScalars (v.leaves (path ++ [k])) := by
  induction vs with
  | nil => simp at hv
  | cons e vs ih =>
    obtain ⟨l, w⟩ := e
    rw [Value.entryLeaves, Leaf.allScalars_append] at h
    rw [Assoc.lookup_cons_eq_ite] at hv
    split at hv
    case isTrue hkl => rw [hkl, ← Option.some.inj hv]; exact h.1
    case isFalse => exact ih h.2 hv

theorem IsPlain.reference?_eq_none {vs : Values η} (h : vs.IsPlain) {k : String} {v : Value η}
    (hv : vs.lookup k = some v) : v.reference? = none := by
  have hleaves := allScalars_leaves_of_lookup h hv
  cases v with
  | reference r =>
    rw [Value.leaves, Leaf.allScalars_singleton] at hleaves
    obtain ⟨s, hs⟩ := hleaves
    cases hs
  | _ => rfl

/-- In a plain tree there is nothing to replace but scalars. -/
theorem IsPlain.mapLeaves_eq {f : Path → Leaf η → Option (Value η)} {vs : Values η}
    (h : vs.IsPlain) (hf : Value.KeepsScalars f) : vs.mapLeaves f = vs :=
  Value.mapEntriesM_of_allScalars hf [] [] vs h

theorem isPlain_mapLeaves {f : Path → Leaf η → Option (Value η)} (hf : Value.GivesScalars f)
    (vs : Values η) : (vs.mapLeaves f).IsPlain :=
  Value.allScalars_leaves_mapEntriesM hf [] [] vs

end Values

end ElementSync
