import ElementSync.Proofs.Value.Plain
import ElementSync.Value.Same

/-!
# Trees whose leaves are all replaced

When every leaf gives way to a value that depends on the leaf alone, the tree keeps its mappings and
sequences. Two trees that are the same stay the same, if the leaves that stand in the same places
give way to the same.
-/

namespace ElementSync
variable {η : Type}

namespace Value

section
variable (g : Leaf η → Value η)

mutual
def replace : Value η → Value η
  | .scalar s => g (.scalar s)
  | .reference r => g (.reference r)
  | .template t => g (.template t)
  | .mapping es => .mapping (replaceEntries es)
  | .sequence vs => .sequence (replaceItems vs)

def replaceEntries : List (String × Value η) → List (String × Value η)
  | [] => []
  | (k, v) :: es => (k, replace v) :: replaceEntries es

def replaceItems : List (Value η) → List (Value η)
  | [] => []
  | v :: vs => replace v :: replaceItems vs
end

@[simp] theorem length_replaceEntries (es : List (String × Value η)) :
    (replaceEntries g es).length = es.length := by
  induction es with
  | nil => rw [replaceEntries]
  | cons e es ih => rw [replaceEntries, List.length_cons, List.length_cons, ih]

theorem lookup_replaceEntries (es : List (String × Value η)) (k : String) :
    (replaceEntries g es).lookup k = (es.lookup k).map (replace g) := by
  induction es with
  | nil => simp [replaceEntries]
  | cons e es ih =>
    obtain ⟨l, v⟩ := e
    rw [replaceEntries, Assoc.lookup_cons_eq_ite, Assoc.lookup_cons_eq_ite, ih]
    split <;> rfl

end

/-- Every leaf is kept, as a value that depends on the leaf alone. -/
def ReplacesBy (f : Path → Leaf η → Option (Value η)) (g : Leaf η → Value η) : Prop :=
  ∀ path l, f path l = some (g l)

section
variable {f : Path → Leaf η → Option (Value η)} {g : Leaf η → Value η}

mutual
theorem mapLeavesM_eq_replace (hf : ReplacesBy f g) (path : Path) (v : Value η) :
    mapLeavesM (m := Id) f path v = some (v.replace g) := by
  cases v with
  | scalar s => rw [mapLeavesM, replace]; exact hf path _
  | reference r => rw [mapLeavesM, replace]; exact hf path _
  | template t => rw [mapLeavesM, replace]; exact hf path _
  | mapping es => rw [mapLeavesM, replace, mapEntriesM_eq_replaceEntries hf path es]; rfl
  | sequence vs => rw [mapLeavesM, replace, mapItemsM_eq_replaceItems hf path 0 vs]; rfl

theorem mapEntriesM_eq_replaceEntries (hf : ReplacesBy f g) (path : Path)
    (es : List (String × Value η)) :
    mapEntriesM (m := Id) f path es = replaceEntries g es := by
  cases es with
  | nil => rw [mapEntriesM, replaceEntries]; rfl
  | cons e es =>
    rw [mapEntriesM, replaceEntries, mapLeavesM_eq_replace hf (path ++ [e.1]) e.2,
      mapEntriesM_eq_replaceEntries hf path es]
    rfl

theorem mapItemsM_eq_replaceItems (hf : ReplacesBy f g) (path : Path) (i : UInt64)
    (vs : List (Value η)) : mapItemsM (m := Id) f path i vs = replaceItems g vs := by
  cases vs with
  | nil => rw [mapItemsM, replaceItems]; rfl
  | cons v vs =>
    rw [mapItemsM, replaceItems, mapLeavesM_eq_replace hf (path ++ [toString i]) v,
      mapItemsM_eq_replaceItems hf path (i + 1) vs]
    rfl
end

theorem replace_of_allScalars (hf : ReplacesBy f g) (hkeeps : KeepsScalars f) {v : Value η}
    (hv : Leaf.AllScalars (v.leaves [])) : v.replace g = v := by
  have hsome := mapLeavesM_of_allScalars hkeeps [] [] v hv
  rw [mapLeavesM_eq_replace hf] at hsome
  exact Option.some.inj hsome

end

/-! ### Trees that are the same -/

theorem mem_entryLeaves_of_lookup {path : Path} {es : Values η} {k : String} {v : Value η}
    (hv : es.lookup k = some v) {l : Path × Leaf η} (hl : l ∈ v.leaves (path ++ [k])) :
    l ∈ entryLeaves path es := by
  induction es with
  | nil => simp at hv
  | cons e es ih =>
    obtain ⟨k', w⟩ := e
    rw [entryLeaves, List.mem_append]
    rw [Assoc.lookup_cons_eq_ite] at hv
    split at hv
    case isTrue hk =>
      subst hk
      cases hv
      exact .inl hl
    case isFalse => exact .inr (ih hv)

end Value

def Leaf.RelatedInPlace (R : Leaf η → Leaf η → Prop) (ls ms : List (Path × Leaf η)) : Prop :=
  ∀ path l m, (path, l) ∈ ls → (path, m) ∈ ms → R l m

theorem Leaf.RelatedInPlace.mono {R : Leaf η → Leaf η → Prop} {ls ls' ms ms' : List (Path × Leaf η)}
    (h : RelatedInPlace R ls ms) (hls : ls' ⊆ ls) (hms : ms' ⊆ ms) : RelatedInPlace R ls' ms' :=
  fun path l m hl hm => h path l m (hls hl) (hms hm)

namespace Value

def KeepsSame (R : Leaf η → Leaf η → Prop) (g : Leaf η → Value η) : Prop :=
  ∀ l m : Leaf η, l.value.same m.value → R l m → (g l).same (g m)

section
variable {g : Leaf η → Value η} {R : Leaf η → Leaf η → Prop}

mutual
theorem same_replace (hg : KeepsSame R g) (path : Path) (v w : Value η) (hvw : v.same w)
    (h : Leaf.RelatedInPlace R (v.leaves path) (w.leaves path)) :
    (v.replace g).same (w.replace g) := by
  cases v with
  | scalar s =>
    cases w with
    | scalar t =>
      rw [replace, replace]
      exact hg (.scalar s) (.scalar t) hvw (h path _ _ (by simp [leaves]) (by simp [leaves]))
    | _ => simp [same] at hvw
  | reference r =>
    cases w with
    | reference q =>
      rw [replace, replace]
      exact hg (.reference r) (.reference q) hvw (h path _ _ (by simp [leaves]) (by simp [leaves]))
    | _ => simp [same] at hvw
  | template t =>
    cases w with
    | template u =>
      rw [replace, replace]
      exact hg (.template t) (.template u) hvw (h path _ _ (by simp [leaves]) (by simp [leaves]))
    | _ => simp [same] at hvw
  | mapping es =>
    cases w with
    | mapping fs =>
      rw [same, Bool.and_eq_true, decide_eq_true_eq] at hvw
      rw [leaves, leaves] at h
      rw [replace, replace, same, Bool.and_eq_true, decide_eq_true_eq, length_replaceEntries,
        length_replaceEntries]
      exact ⟨hvw.1, entriesWithin_replace hg path es fs hvw.2 h⟩
    | _ => simp [same] at hvw
  | sequence vs =>
    cases w with
    | sequence ws =>
      rw [same] at hvw
      rw [leaves, leaves] at h
      rw [replace, replace, same]
      exact itemsSame_replace hg path 0 vs ws hvw h
    | _ => simp [same] at hvw

theorem entriesWithin_replace (hg : KeepsSame R g) (path : Path) (es fs : List (String × Value η))
    (hwithin : entriesWithin es fs)
    (h : Leaf.RelatedInPlace R (entryLeaves path es) (entryLeaves path fs)) :
    entriesWithin (replaceEntries g es) (replaceEntries g fs) := by
  cases es with
  | nil => rw [replaceEntries, entriesWithin]
  | cons e es =>
    obtain ⟨k, v⟩ := e
    rw [entriesWithin, Bool.and_eq_true] at hwithin
    rw [entryLeaves] at h
    rw [replaceEntries, entriesWithin, Bool.and_eq_true, lookup_replaceEntries]
    refine ⟨?_, entriesWithin_replace hg path es fs hwithin.2
      (h.mono (List.subset_append_right _ _) (List.Subset.refl _))⟩
    have hfirst := hwithin.1
    cases hw : fs.lookup k with
    | none => simp [hw] at hfirst
    | some w =>
      simp only [hw] at hfirst
      exact same_replace hg (path ++ [k]) v w hfirst
        (h.mono (List.subset_append_left _ _) fun l hl => mem_entryLeaves_of_lookup hw hl)

theorem itemsSame_replace (hg : KeepsSame R g) (path : Path) (i : UInt64) (vs ws : List (Value η))
    (hsame : itemsSame vs ws)
    (h : Leaf.RelatedInPlace R (itemLeaves path i vs) (itemLeaves path i ws)) :
    itemsSame (replaceItems g vs) (replaceItems g ws) := by
  cases vs with
  | nil =>
    cases ws with
    | nil => rw [replaceItems, itemsSame]
    | cons w ws => simp [itemsSame] at hsame
  | cons v vs =>
    cases ws with
    | nil => simp [itemsSame] at hsame
    | cons w ws =>
      rw [itemsSame, Bool.and_eq_true] at hsame
      rw [itemLeaves, itemLeaves] at h
      rw [replaceItems, replaceItems, itemsSame, Bool.and_eq_true]
      exact ⟨same_replace hg (path ++ [toString i]) v w hsame.1
          (h.mono (List.subset_append_left _ _) (List.subset_append_left _ _)),
        itemsSame_replace hg path (i + 1) vs ws hsame.2
          (h.mono (List.subset_append_right _ _) (List.subset_append_right _ _))⟩
end

end

end Value

end ElementSync
