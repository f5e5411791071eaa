import ElementSync.Proofs.Value.LeafPlaces
import ElementSync.Reference.Index
import Mathlib.Data.List.Nodup

/-!
# Who refers to whom, completely

The index is made up by adding one occurrence after the other. It answers every target with exactly
the places that refer to it, in the order of the walk, and an answer leads back to an instance and,
along the rest of the place, to what refers.
-/

namespace ElementSync
variable {η : Type}

namespace Value

def inside (key : String) (sites : List (Path × ElementId)) : List (Path × ElementId) :=
  sites.map fun site => (key :: site.1, site.2)

mutual
/-- The way to each occurrence of a reference and its target, depth first. -/
def sites : Value η → List (Path × ElementId)
  | .scalar _ => []
  | .reference r => [([], r.target)]
  | .template t => t.references.map fun r => ([], r.target)
  | .mapping es => entrySites es
  | .sequence vs => itemSites 0 vs

def entrySites : List (String × Value η) → List (Path × ElementId)
  | [] => []
  | (k, v) :: es => inside k (sites v) ++ entrySites es

def itemSites (i : UInt64) : List (Value η) → List (Path × ElementId)
  | [] => []
  | v :: vs => inside (toString i) (sites v) ++ itemSites (i + 1) vs
end

def found (l : Path × Leaf η) : List (Path × ElementId) :=
  l.2.references.map fun r => (l.1, r.target)

theorem map_inside (path : Path) (key : String) (sites : List (Path × ElementId)) :
    (inside key sites).map (fun site => (path ++ site.1, site.2)) =
      sites.map fun site => (path ++ [key] ++ site.1, site.2) := by
  rw [inside, List.map_map]
  refine List.map_congr_left fun site _ => ?_
  rw [Function.comp_apply, List.append_assoc]
  rfl

mutual
/-- The path that a walk carries along is the way from the root. -/
theorem flatMap_found_leaves (path : Path) (v : Value η) :
    (v.leaves path).flatMap found = v.sites.map fun site => (path ++ site.1, site.2) := by
  cases v with
  | scalar s => simp [leaves, sites, found, Leaf.references]
  | reference r => simp [leaves, sites, found, Leaf.references]
  | template t => simp [leaves, sites, found, Leaf.references]
  | mapping es => rw [leaves, sites, flatMap_found_entryLeaves path es]
  | sequence vs => rw [leaves, sites, flatMap_found_itemLeaves path 0 vs]

theorem flatMap_found_entryLeaves (path : Path) (es : List (String × Value η)) :
    (entryLeaves path es).flatMap found =
      (entrySites es).map fun site => (path ++ site.1, site.2) := by
  cases es with
  | nil => rw [entryLeaves, entrySites, List.flatMap_nil, List.map_nil]
  | cons e es =>
    rw [entryLeaves, entrySites, List.flatMap_append, List.map_append, map_inside,
      flatMap_found_leaves (path ++ [e.1]) e.2, flatMap_found_entryLeaves path es]

theorem flatMap_found_itemLeaves (path : Path) (i : UInt64) (vs : List (Value η)) :
    (itemLeaves path i vs).flatMap found =
      (itemSites i vs).map fun site => (path ++ site.1, site.2) := by
  cases vs with
  | nil => rw [itemLeaves, itemSites, List.flatMap_nil, List.map_nil]
  | cons v vs =>
    rw [itemLeaves, itemSites, List.flatMap_append, List.map_append, map_inside,
      flatMap_found_leaves (path ++ [toString i]) v, flatMap_found_itemLeaves path (i + 1) vs]
end

theorem sites_eq_flatMap (v : Value η) : v.sites = (v.leaves []).flatMap found := by
  rw [flatMap_found_leaves]
  simp

inductive RefersTo (target : ElementId) : Value η → Prop
  | reference {r : Reference η} : r.target = target → RefersTo target (.reference r)
  | template {t : Template η} {r : Reference η} :
    .reference r ∈ t.parts → r.target = target → RefersTo target (.template t)

theorem mem_references_iff {t : Template η} {r : Reference η} :
    r ∈ t.references ↔ .reference r ∈ t.parts := by
  rw [Template.references, List.mem_filterMap]
  constructor
  · rintro ⟨p, hp, h⟩
    cases p with
    | literal s => cases h
    | reference q => exact Option.some.inj h ▸ hp
  · exact fun h => ⟨.reference r, h, rfl⟩

theorem refersTo_value_iff {target : ElementId} {l : Leaf η} :
    RefersTo target l.value ↔ ∃ r ∈ l.references, r.target = target := by
  cases l with
  | scalar s => exact iff_of_false nofun (by simp [Leaf.references])
  | reference r =>
    rw [Leaf.references, Leaf.value]
    constructor
    · rintro ⟨h⟩
      exact ⟨r, List.mem_cons_self, h⟩
    · rintro ⟨q, hq, h⟩
      exact .reference (List.mem_singleton.1 hq ▸ h)
  | template t =>
    rw [Leaf.references, Leaf.value]
    constructor
    · rintro (_ | ⟨hr, h⟩)
      exact ⟨_, mem_references_iff.2 hr, h⟩
    · rintro ⟨r, hr, h⟩
      exact .template (mem_references_iff.1 hr) h

theorem RefersTo.exists_leaf {target : ElementId} {v : Value η} (h : v.RefersTo target) :
    ∃ l : Leaf η, v = l.value := by
  cases h with
  | @reference r h => exact ⟨.reference r, rfl⟩
  | @template t r hr h => exact ⟨.template t, rfl⟩

/-- The sites of a tree are the ways to what refers. -/
theorem mem_sites_iff {v : Value η} {path : Path} {target : ElementId} :
    (path, target) ∈ v.sites ↔
      ∃ s : Surroundings η, s.path = path ∧ ∃ w : Value η, v = s.fill w ∧ w.RefersTo target := by
  have hfound : ∀ l : Path × Leaf η,
      (path, target) ∈ found l ↔ l.1 = path ∧ l.2.value.RefersTo target := by
    intro l
    rw [refersTo_value_iff, found, List.mem_map]
    simp only [Prod.mk.injEq]
    constructor
    · rintro ⟨r, hr, hpath, htarget⟩
      exact ⟨hpath, r, hr, htarget⟩
    · rintro ⟨hpath, r, hr, htarget⟩
      exact ⟨r, hr, hpath, htarget⟩
  rw [sites_eq_flatMap, List.mem_flatMap]
  constructor
  · rintro ⟨l, hl, hmem⟩
    obtain ⟨hpath, hrefers⟩ := (hfound l).1 hmem
    obtain ⟨s, hv, hs⟩ := mem_leaves_iff.1 hl
    exact ⟨s, hs.symm.trans hpath, l.2.value, hv, hrefers⟩
  · rintro ⟨s, rfl, w, rfl, hrefers⟩
    obtain ⟨l, rfl⟩ := hrefers.exists_leaf
    exact ⟨(s.path, l), mem_leaves_iff.2 ⟨s, rfl, rfl⟩, (hfound _).2 ⟨rfl, hrefers⟩⟩

end Value

namespace ReferenceIndex
variable {ix : ReferenceIndex} {o : Occurrence} {os : List Occurrence} {t : ElementId}

theorem referrers_add (ix : ReferenceIndex) (o : Occurrence) (t : ElementId) :
    (ix.add o).referrers t = ix.referrers t ++ if o.target = t then [o.place] else [] := by
  rw [referrers, add, Assoc.lookup_put]
  by_cases ht : t = o.target
  · rw [if_pos ht, if_pos ht.symm, ht]
    rfl
  · rw [if_neg ht, if_neg (Ne.symm ht), List.append_nil]
    rfl

theorem mem_targets_add : t ∈ (ix.add o).targets ↔ t = o.target ∨ t ∈ ix.targets := by
  rw [targets, targets, add]
  by_cases h : o.target ∈ Assoc.keys ix
  · rw [Assoc.keys_put_of_mem h, or_iff_right_of_imp]
    rintro rfl
    exact h
  · rw [Assoc.keys_put_of_notMem h, List.mem_append, List.mem_singleton, or_comm]

theorem nodup_targets_add (h : ix.targets.Nodup) : (ix.add o).targets.Nodup := by
  rw [targets] at h ⊢
  rw [add]
  by_cases hmem : o.target ∈ Assoc.keys ix
  · rwa [Assoc.keys_put_of_mem hmem]
  · rw [Assoc.keys_put_of_notMem hmem]
    exact List.nodup_append.2 ⟨h, List.nodup_singleton _, fun a ha b hb hab =>
      hmem (List.mem_singleton.1 hb ▸ hab ▸ ha)⟩

def size (ix : ReferenceIndex) : Nat := (ix.map fun e => e.2.length).foldr (· + ·) 0

theorem size_add (ix : ReferenceIndex) (o : Occurrence) : (ix.add o).size = ix.size + 1 := by
  induction ix with
  | nil => rfl
  | cons e ix ih =>
    obtain ⟨t, places⟩ := e
    rw [add, referrers, Assoc.lookup_cons_eq_ite, Assoc.put]
    by_cases ht : t = o.target
    · rw [if_pos ht, if_pos ht.symm]
      simp only [size, List.map_cons, List.foldr_cons, Option.getD_some, List.length_append,
        List.length_singleton]
      omega
    · rw [if_neg ht, if_neg (Ne.symm ht)]
      rw [add, referrers, size] at ih
      simp only [size, List.map_cons, List.foldr_cons, ih]
      omega

/-! ### A whole walk -/

theorem referrers_foldl_add (os : List Occurrence) (ix : ReferenceIndex) (t : ElementId) :
    (os.foldl add ix).referrers t =
      ix.referrers t ++ (os.filter (·.target = t)).map Occurrence.place := by
  induction os generalizing ix with
  | nil => simp
  | cons o os ih =>
    rw [List.foldl_cons, ih, referrers_add, List.filter_cons, List.append_assoc]
    by_cases ht : o.target = t <;> simp [ht]

theorem mem_targets_foldl_add :
    t ∈ (os.foldl add ix).targets ↔ (∃ o ∈ os, o.target = t) ∨ t ∈ ix.targets := by
  induction os generalizing ix with
  | nil => simp
  | cons o os ih =>
    rw [List.foldl_cons, ih, mem_targets_add]
    simp only [List.mem_cons, exists_eq_or_imp]
    rw [eq_comm (a := t), ← or_assoc, or_comm (b := o.target = t)]

theorem nodup_targets_foldl_add (h : ix.targets.Nodup) : (os.foldl add ix).targets.Nodup := by
  induction os generalizing ix with
  | nil => exact h
  | cons o os ih => exact ih (nodup_targets_add h)

/-- The targets are those that have referrers. -/
theorem mem_targets_iff_of_foldl_add :
    t ∈ (os.foldl add []).targets ↔ (os.foldl add []).referrers t ≠ [] := by
  have hnil : t ∉ targets [] := List.not_mem_nil
  rw [mem_targets_foldl_add, or_iff_left hnil, referrers_foldl_add]
  simp [referrers]

theorem size_foldl_add (os : List Occurrence) (ix : ReferenceIndex) :
    (os.foldl add ix).size = ix.size + os.length := by
  induction os generalizing ix with
  | nil => rfl
  | cons o os ih =>
    rw [List.foldl_cons, ih, size_add, List.length_cons]
    omega

/-- Each place is held under one target. -/
theorem size_eq_of_nodup (h : ix.targets.Nodup) :
    ix.size = (ix.targets.map fun t => (ix.referrers t).length).foldr (· + ·) 0 := by
  have hentries : ∀ e ∈ ix, e.2.length = (ix.referrers e.1).length := by
    intro e he
    rw [referrers, Assoc.lookup_of_mem h he, Option.getD_some]
  rw [size, targets, Assoc.keys, List.map_map, List.map_congr_left hentries]
  rfl

def occurrences (i : Instance Element) : List Occurrence :=
  (Value.mapping i.value).sites.map fun site => ⟨i.id.nest site.1, site.2⟩

theorem addInstance_eq (ix : ReferenceIndex) (i : Instance Element) :
    ix.addInstance i = (occurrences i).foldl add ix := by
  have hsites : (Value.mapping i.value).sites =
      (Values.references i.value).map fun l => (l.1, l.2.target) := by
    rw [Value.sites_eq_flatMap, Values.references, List.map_flatMap, Value.leaves, Values.leaves]
    simp only [List.map_map]
    rfl
  rw [addInstance, occurrences, hsites, List.map_map, List.foldl_map]
  rfl

theorem ofElements_eq (es : List Element) :
    ofElements es = ((es.filterMap Element.inst?).flatMap occurrences).foldl add [] := by
  have hstep : addInstance = fun ix i => (occurrences i).foldl add ix := by
    funext ix i
    exact addInstance_eq ix i
  rw [ofElements, List.foldl_flatMap, hstep]

theorem referrers_ofElements (es : List Element) (t : ElementId) :
    (ofElements es).referrers t =
      (es.filterMap Element.inst?).flatMap fun i =>
        ((Value.mapping i.value).sites.filter (·.2 = t)).map fun site => i.id.nest site.1 := by
  rw [ofElements_eq, referrers_foldl_add, List.filter_flatMap, List.map_flatMap]
  simp only [occurrences, List.filter_map, List.map_map]
  rfl

theorem mem_filterMap_inst? {es : List Element} {i : Instance Element} :
    i ∈ es.filterMap Element.inst? ↔ .inst i ∈ es := by
  rw [List.mem_filterMap]
  constructor
  · rintro ⟨e, he, h⟩
    cases e with
    | inst j => exact Option.some.inj h ▸ he
    | _ => cases h
  · exact fun h => ⟨.inst i, h, rfl⟩

theorem topLevel_nest_id (i : Instance Element) (path : Path) :
    (i.id.nest path).topLevel = (i.id, path) := rfl

/-- A place is an instance's id and the way to something in its values that refers to the target. -/
theorem mem_referrers_ofElements {es : List Element} {place : ElementId} :
    place ∈ (ofElements es).referrers t ↔
      ∃ i : Instance Element, .inst i ∈ es ∧ place.topLevel.1 = i.id ∧
        ∃ s : Surroundings Element, s.path = place.topLevel.2 ∧
          ∃ v, .mapping i.value = s.fill v ∧ v.RefersTo t := by
  rw [referrers_ofElements, List.mem_flatMap]
  refine exists_congr fun i => ?_
  rw [mem_filterMap_inst?, and_congr_right_iff]
  intro _
  rw [List.mem_map]
  constructor
  · rintro ⟨⟨path, target⟩, hmem, rfl⟩
    obtain ⟨hsite, htarget⟩ := List.mem_filter.1 hmem
    obtain rfl : target = t := of_decide_eq_true htarget
    exact ⟨rfl, Value.mem_sites_iff.1 hsite⟩
  · rintro ⟨hid, hway⟩
    refine ⟨(place.topLevel.2, t), List.mem_filter.2 ⟨Value.mem_sites_iff.2 hway, by simp⟩, ?_⟩
    rw [← hid]
    exact ElementId.topLevel_nest place

/-- Every occurrence of a reference is listed under its target once, in element order and depth
first within an element. A listed place leads to an instance and inside it to what refers to the
target. The lists of all targets together have one place for each occurrence. -/
theorem referrers_sound_complete (es : List Element) :
    (∀ t, (ofElements es).referrers t =
      (es.filterMap Element.inst?).flatMap fun i =>
        ((Value.mapping i.value).sites.filter (·.2 = t)).map fun site => i.id.nest site.1) ∧
    (∀ t place, place ∈ (ofElements es).referrers t ↔
      ∃ i : Instance Element, .inst i ∈ es ∧ place.topLevel.1 = i.id ∧
        ∃ s : Surroundings Element, s.path = place.topLevel.2 ∧
          ∃ v, .mapping i.value = s.fill v ∧ v.RefersTo t) ∧
    (ofElements es).targets.Nodup ∧
    (∀ t, t ∈ (ofElements es).targets ↔ (ofElements es).referrers t ≠ []) ∧
    ((ofElements es).targets.map fun t => ((ofElements es).referrers t).length).foldr (· + ·) 0 =
      ((es.filterMap Element.inst?).flatMap fun i => (Value.mapping i.value).sites).length := by
  have hnodup : (ofElements es).targets.Nodup := by
    rw [ofElements_eq]
    exact nodup_targets_foldl_add List.nodup_nil
  refine ⟨referrers_ofElements es, fun t place => mem_referrers_ofElements, hnodup, fun t => ?_, ?_⟩
  · rw [ofElements_eq]
    exact mem_targets_iff_of_foldl_add
  · rw [← size_eq_of_nodup hnodup, ofElements_eq, size_foldl_add, List.length_flatMap,
      List.length_flatMap]
    simp only [occurrences, List.length_map]
    exact Nat.zero_add _

end ReferenceIndex

end ElementSync
