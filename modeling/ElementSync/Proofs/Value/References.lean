import ElementSync.Proofs.Value.Plain

/-!
# References in a value tree

Which references a tree holds does not depend on the path that it stands under, so they can be
listed entry by entry. Writing an entry brings in the references of the new value at most.
-/

namespace ElementSync

theorem Assoc.mem_of_mem_put {κ α : Type} [DecidableEq κ] {m : Assoc κ α} {k : κ} {a : α}
    {e : κ × α} (h : e ∈ put m k a) : e = (k, a) ∨ e ∈ m := by
  induction m with
  | nil => exact .inl (List.mem_singleton.1 h)
  | cons e' m ih =>
    rw [put] at h
    split at h
    · rcases List.mem_cons.1 h with rfl | h
      · exact .inl rfl
      · exact .inr (List.mem_cons_of_mem e' h)
    · rcases List.mem_cons.1 h with rfl | h
      · exact .inr List.mem_cons_self
      · exact (ih h).imp_right (List.mem_cons_of_mem e')

variable {η : Type}

namespace Value

theorem eq_sequence_of_sequence? {v : Value η} {vs : List (Value η)} (h : v.sequence? = some vs) :
    v = .sequence vs := by
  cases v with
  | sequence ws => rw [Option.some.inj h]
  | _ => cases h

theorem eq_mapping_of_mapping? {v : Value η} {vs : Values η} (h : v.mapping? = some vs) :
    v = .mapping vs := by
  cases v with
  | mapping ws => rw [Option.some.inj h]
  | _ => cases h

def references (v : Value η) : List (Reference η) := (v.leaves []).flatMap (·.2.references)

theorem entryLeaves_eq_flatMap (path : Path) (es : Values η) :
    entryLeaves path es = es.flatMap fun e => e.2.leaves (path ++ [e.1]) := by
  induction es with
  | nil => rw [entryLeaves, List.flatMap_nil]
  | cons e es ih => rw [entryLeaves, ih, List.flatMap_cons]

mutual
theorem map_snd_leaves (path path' : Path) (v : Value η) :
    (v.leaves path).map Prod.snd = (v.leaves path').map Prod.snd := by
  cases v with
  | scalar s => rw [leaves, leaves]; rfl
  | reference r => rw [leaves, leaves]; rfl
  | template t => rw [leaves, leaves]; rfl
  | mapping es => rw [leaves, leaves, map_snd_entryLeaves path path' es]
  | sequence vs => rw [leaves, leaves, map_snd_itemLeaves path path' 0 0 vs]

theorem map_snd_entryLeaves (path path' : Path) (es : List (String × Value η)) :
    (entryLeaves path es).map Prod.snd = (entryLeaves path' es).map Prod.snd := by
  cases es with
  | nil => rw [entryLeaves, entryLeaves]
  | cons e es =>
    rw [entryLeaves, entryLeaves, List.map_append, List.map_append,
      map_snd_leaves (path ++ [e.1]) (path' ++ [e.1]) e.2, map_snd_entryLeaves path path' es]

theorem map_snd_itemLeaves (path path' : Path) (i j : UInt64) (vs : List (Value η)) :
    (itemLeaves path i vs).map Prod.snd = (itemLeaves path' j vs).map Prod.snd := by
  cases vs with
  | nil => rw [itemLeaves, itemLeaves]
  | cons v vs =>
    rw [itemLeaves, itemLeaves, List.map_append, List.map_append,
      map_snd_leaves (path ++ [toString i]) (path' ++ [toString j]) v,
      map_snd_itemLeaves path path' (i + 1) (j + 1) vs]
end

/-- The path plays no part. -/
theorem flatMap_references_leaves (path : Path) (v : Value η) :
    (v.leaves path).flatMap (·.2.references) = v.references := by
  have hmap := congrArg (List.flatMap Leaf.references) (map_snd_leaves path [] v)
  rw [references]
  simpa only [List.flatMap_map] using hmap

@[simp] theorem references_scalar (s : Scalar) : (Value.scalar s : Value η).references = [] := by
  simp [references, leaves, Leaf.references]

@[simp] theorem references_text (s : String) : (Value.text s : Value η).references = [] :=
  references_scalar _

@[simp] theorem references_reference (r : Reference η) : (Value.reference r).references = [r] := by
  simp [references, leaves, Leaf.references]

@[simp] theorem references_template (t : Template η) :
    (Value.template t).references = t.references := by
  simp [references, leaves, Leaf.references]

@[simp] theorem references_mapping (es : Values η) :
    (Value.mapping es).references = es.flatMap (·.2.references) := by
  rw [references, leaves, entryLeaves_eq_flatMap, List.flatMap_assoc]
  simp only [flatMap_references_leaves]

@[simp] theorem references_sequence (vs : List (Value η)) :
    (Value.sequence vs).references = vs.flatMap references := by
  have hitems : ∀ i, (itemLeaves [] i vs).flatMap (·.2.references) = vs.flatMap references := by
    induction vs with
    | nil =>
      intro i
      rw [itemLeaves, List.flatMap_nil, List.flatMap_nil]
    | cons v vs ih =>
      intro i
      rw [itemLeaves, List.flatMap_append, flatMap_references_leaves, ih, List.flatMap_cons]
  rw [references, leaves, hitems]

mutual
/-- Data of the external system hold no references. -/
theorem references_of_ofJson? (j : Json) (v : Value η) (h : ofJson? j = some v) :
    v.references = [] := by
  cases j with
  | null => rw [ofJson?] at h; cases h
  | array items =>
    rw [ofJson?] at h
    cases h
    rw [references_sequence, flatMap_references_ofItems items]
  | object entries =>
    rw [ofJson?] at h
    cases h
    rw [references_mapping, flatMap_references_ofEntries entries]
  | _ =>
    rw [ofJson?] at h
    cases h
    exact references_scalar _

theorem flatMap_references_ofItems (items : List Json) :
    (ofItems items : List (Value η)).flatMap references = [] := by
  cases items with
  | nil => rw [ofItems, List.flatMap_nil]
  | cons j items =>
    rw [ofItems]
    cases hj : (ofJson? j : Option (Value η)) with
    | none => exact flatMap_references_ofItems items
    | some v =>
      rw [Option.elim_some, List.flatMap_cons, references_of_ofJson? j v hj,
        flatMap_references_ofItems items, List.append_nil]

theorem flatMap_references_ofEntries (entries : List (String × Json)) :
    (ofEntries entries : Values η).flatMap (·.2.references) = [] := by
  cases entries with
  | nil => rw [ofEntries, List.flatMap_nil]
  | cons e entries =>
    rw [ofEntries]
    cases hj : (ofJson? e.2 : Option (Value η)) with
    | none => exact flatMap_references_ofEntries entries
    | some v =>
      rw [Option.elim_some, List.flatMap_cons, references_of_ofJson? e.2 v hj,
        flatMap_references_ofEntries entries, List.append_nil]
end

end Value

namespace Values
variable {vs : Values η}

def referenceList (vs : Values η) : List (Reference η) := vs.references.map Prod.snd

theorem references_eq_flatMap (vs : Values η) : vs.references = vs.flatMap fun e =>
    (e.2.leaves [e.1]).flatMap fun l => l.2.references.map (l.1, ·) := by
  rw [references, leaves, Value.entryLeaves_eq_flatMap, List.flatMap_assoc]
  rfl

theorem referenceList_eq_flatMap (vs : Values η) :
    vs.referenceList = vs.flatMap (·.2.references) := by
  rw [referenceList, references_eq_flatMap, List.map_flatMap]
  simp only [List.map_flatMap, List.map_map, Function.comp_def, List.map_id',
    Value.flatMap_references_leaves]

theorem references_mapping_eq (vs : Values η) : (Value.mapping vs).references = vs.referenceList := by
  rw [Value.references_mapping, referenceList_eq_flatMap]

theorem mem_referenceList {r : Reference η} :
    r ∈ vs.referenceList ↔ ∃ e ∈ vs, r ∈ e.2.references := by
  rw [referenceList_eq_flatMap, List.mem_flatMap]

theorem mem_referenceList_of_lookup {k : String} {v : Value η} (hv : vs.lookup k = some v)
    {r : Reference η} (hr : r ∈ v.references) : r ∈ vs.referenceList :=
  mem_referenceList.2 ⟨(k, v), Assoc.mem_of_lookup hv, hr⟩

theorem mem_referenceList_put {k : String} {v : Value η} {r : Reference η}
    (h : r ∈ referenceList (Assoc.put vs k v)) : r ∈ v.references ∨ r ∈ vs.referenceList := by
  obtain ⟨e, he, hr⟩ := mem_referenceList.1 h
  rcases Assoc.mem_of_mem_put he with rfl | he
  · exact .inl hr
  · exact .inr (mem_referenceList.2 ⟨e, he, hr⟩)

theorem mem_references_put {k : String} {q : Reference η} {l : Path × Reference η}
    (h : l ∈ references (Assoc.put vs k (.reference q))) : l = ([k], q) ∨ l ∈ vs.references := by
  rw [references_eq_flatMap] at h ⊢
  obtain ⟨e, he, hl⟩ := List.mem_flatMap.1 h
  rcases Assoc.mem_of_mem_put he with rfl | he
  · exact .inl (by simpa [Value.leaves, Leaf.references] using hl)
  · exact .inr (List.mem_flatMap.2 ⟨e, he, hl⟩)

theorem referenceList_ofRecord (r : Record) : (ofRecord r : Values η).referenceList = [] := by
  rw [referenceList_eq_flatMap]
  exact Value.flatMap_references_ofEntries r

theorem IsPlain.references_eq_nil (h : vs.IsPlain) : vs.references = [] := by
  refine List.flatMap_eq_nil_iff.2 fun ⟨path, leaf⟩ hl => ?_
  obtain ⟨s, rfl⟩ : ∃ s, leaf = .scalar s := h _ hl
  rfl

end Values

end ElementSync
