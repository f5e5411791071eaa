import ElementSync.Proofs.Fetch.References

/-!
# Ids of split labels

The split of the labels makes ids of its own. They clash when two labels of the container have one
name, or when a label was fetched as a record, too.
-/

namespace ElementSync.Labels

/-- The labels that the split adds do not go together with each other or with what is there. -/
def Clash (es : List Element) : Prop :=
  ∃ container type, container? es = some container ∧ type? es = some type ∧
    (¬ ((labels type container).map (·.name)).Nodup ∨
      ∃ l ∈ labels type container, l.id ∈ es.map Element.id)

/-! ### Splitting rewritten elements -/

/-- A rewriting of instances that the split does not depend on. -/
structure Keeps (g : Instance Element → Instance Element) : Prop where
  id_eq : ∀ i, (g i).id = i.id
  labels_eq : ∀ i, i.typeName = containerType → ∀ type, labels type (g i) = labels type i

section
variable {g : Instance Element → Instance Element}

theorem Keeps.isOf_mapInst (hg : Keeps g) (typeName : String) (e : Element) :
    isOf typeName (e.mapInst g) = isOf typeName e := by
  cases e with
  | inst i =>
    have htype : (g i).id.typeName = i.id.typeName := by rw [hg.id_eq]
    change (g i).typeName = i.typeName at htype
    simp only [isOf, Element.mapInst, Element.inst?, Option.any_some, htype]
  | _ => rfl

theorem Keeps.id_mapInst (hg : Keeps g) (e : Element) : (e.mapInst g).id = e.id := by
  cases e with
  | inst i => exact hg.id_eq i
  | _ => rfl

theorem Keeps.container?_map (hg : Keeps g) (es : List Element) :
    container? (es.map (Element.mapInst g)) = (container? es).map g := by
  have hisOf : isOf containerType ∘ Element.mapInst g = isOf containerType :=
    funext (hg.isOf_mapInst containerType)
  rw [container?, container?, List.find?_map, hisOf]
  cases hfind : es.find? (isOf containerType) with
  | none => rfl
  | some e => cases e <;> rfl

theorem type?_map (g : Instance Element → Instance Element) (es : List Element) :
    type? (es.map (Element.mapInst g)) = type? es := by
  rw [type?, type?, List.filterMap_map]
  congr 2
  funext e
  cases e <;> rfl

theorem typeName_of_container? {es : List Element} {container : Instance Element}
    (h : container? es = some container) : container.typeName = containerType := by
  obtain ⟨e, he, hinst⟩ := Option.bind_eq_some_iff.1 h
  have hof := List.find?_some he
  rw [isOf, hinst] at hof
  simpa using hof

theorem Keeps.map_id_split (hg : Keeps g) (es : List Element) :
    (split (es.map (Element.mapInst g))).map Element.id = (split es).map Element.id := by
  have hids : Element.id ∘ Element.mapInst g = Element.id := funext hg.id_mapInst
  rw [split, split, hg.container?_map, type?_map]
  cases hcontainer : container? es with
  | none => simp [hids]
  | some container =>
    cases type? es with
    | none => simp [hids]
    | some type =>
      have hfilter : (fun e => !isOf containerType e) ∘ Element.mapInst g =
          fun e => !isOf containerType e :=
        funext fun e => congrArg not (hg.isOf_mapInst containerType e)
      simp only [Option.map_some, hg.labels_eq container (typeName_of_container? hcontainer),
        List.map_append, List.filter_map, List.map_map, hids, hfilter]

theorem Keeps.comp {g' : Instance Element → Instance Element} (hg' : Keeps g') (hg : Keeps g) :
    Keeps (g' ∘ g) where
  id_eq i := (hg'.id_eq (g i)).trans (hg.id_eq i)
  labels_eq i hi type := by
    have htype : (g i).id.typeName = i.id.typeName := by rw [hg.id_eq]
    exact (hg'.labels_eq (g i) (htype.trans hi) type).trans (hg.labels_eq i hi type)

theorem Keeps.of_linksTo {es : List Element} (h : ∀ i : Instance Element, i.LinksTo es (g i))
    (hlabels : ∀ i : Instance Element, i.typeName = containerType →
      ((g i).get? labelsField).bind Value.sequence? =
        (i.get? labelsField).bind Value.sequence?) : Keeps g where
  id_eq i := by
    obtain ⟨vs, hvs, -⟩ := h i
    rw [hvs]
    rfl
  labels_eq i hi type := by rw [labels, labels, hlabels i hi]

/-- Lookups replace text, and the labels are no text. -/
theorem keeps_linkInstance (es : List Element) :
    Keeps (RecordReferences.linkInstance (RecordReferences.records es)) := by
  refine .of_linksTo (RecordReferences.linkInstance_linksTo es) ?_
  intro i _
  rw [RecordReferences.linkInstance]
  split
  case isFalse => rfl
  case isTrue =>
    rw [RecordReferences.get?_foldl_linkField]
    cases hlinked : RecordReferences.linked? (RecordReferences.records es) i.type.fields i
      labelsField with
    | none => rfl
    | some d =>
      cases htext : i.text? labelsField with
      | none =>
        rw [RecordReferences.linked?_eq_none_of_text? _ htext] at hlinked
        cases hlinked
      | some text =>
        obtain ⟨v, hv, hvtext⟩ := Option.bind_eq_some_iff.1 htext
        obtain rfl := Value.eq_text_of_text? hvtext
        rw [hv]
        rfl

/-- The container is no rule. -/
theorem keeps_unpackInstance (es : List Element) : Keeps (ConditionLogic.unpackInstance es) := by
  refine .of_linksTo (ConditionLogic.unpackInstance_linksTo es) ?_
  intro i hi
  have hkind : ConditionLogic.RuleKind.of? i = none := by
    cases hof : ConditionLogic.RuleKind.of? i with
    | none => rfl
    | some k =>
      obtain ⟨hk, -, htype⟩ := ConditionLogic.RuleKind.of?_eq_some hof
      have hrule : ∀ k ∈ ConditionLogic.RuleKind.all, k.ruleType ≠ containerType := by decide
      exact absurd (htype.symm.trans hi) (hrule k hk)
  rw [ConditionLogic.unpackInstance, hkind]

end

/-! ### Splitting what was fetched -/

section
variable {es ts : List Element}

theorem container?_append (h : ∀ e ∈ ts, e.isInst = false) :
    container? (es ++ ts) = container? es := by
  have hnone : ts.find? (isOf containerType) = none := by
    refine List.find?_eq_none.2 fun e he hof => ?_
    cases e with
    | inst i => cases h _ he
    | _ => cases hof
  rw [container?, container?, List.find?_append, hnone, Option.or_none]

theorem type?_append (h : ∀ e ∈ ts, e.id.typeName ≠ labelType) :
    type? (es ++ ts) = type? es := by
  have hnone : (ts.filterMap Element.objectType?).find? (·.id.typeName = labelType) = none := by
    refine List.find?_eq_none.2 fun t ht hlabel => ?_
    obtain ⟨e, he, htype⟩ := List.mem_filterMap.1 ht
    cases e with
    | objectType u =>
      cases htype
      exact h _ he (of_decide_eq_true hlabel)
    | _ => cases htype
  rw [type?, type?, List.filterMap_append, List.find?_append, hnone, Option.or_none]

theorem id_of_mem_labels {type : ObjectType Element} {container l : Instance Element}
    (h : l ∈ labels type container) :
    l.id = .inst type.id.adapter type.id.typeName l.name := by
  obtain ⟨v, -, hv⟩ := List.mem_filterMap.1 h
  obtain ⟨values, -, hv⟩ := Option.bind_eq_some_iff.1 hv
  obtain ⟨name, -, hv⟩ := Option.bind_eq_some_iff.1 hv
  cases hv
  rfl

/-- Labels have distinct ids when they have distinct names. -/
theorem nodup_ids_iff {type : ObjectType Element} {container : Instance Element} :
    ((labels type container).map (·.id)).Nodup ↔ ((labels type container).map (·.name)).Nodup := by
  have hinj : Function.Injective (ElementId.inst type.id.adapter type.id.typeName) := by
    intro a b hab
    simpa [ElementId.inst] using hab
  have hids : (labels type container).map (·.id) =
      ((labels type container).map (·.name)).map
        (ElementId.inst type.id.adapter type.id.typeName) := by
    rw [List.map_map]
    exact List.map_congr_left fun l hl => id_of_mem_labels hl
  rw [hids, List.nodup_map_iff hinj]

theorem typeName_of_type? {type : ObjectType Element} (h : type? es = some type) :
    type.id.typeName = labelType := by
  rw [type?] at h
  simpa using List.find?_some h

theorem clash_iff {type : ObjectType Element} {container : Instance Element}
    (hcontainer : container? es = some container) (htype : type? es = some type) :
    Clash es ↔ ¬ ((labels type container).map (·.name)).Nodup ∨
      ∃ l ∈ labels type container, l.id ∈ es.map Element.id := by
  constructor
  · rintro ⟨container', type', hcontainer', htype', hclash⟩
    cases hcontainer.symm.trans hcontainer'
    cases htype.symm.trans htype'
    exact hclash
  · exact fun hclash => ⟨container, type, hcontainer, htype, hclash⟩

/-- An id that no container has is there as well without the containers. -/
theorem mem_ids_filter_iff {id : ElementId} (h : id.kind = .type ∨ id.typeName ≠ containerType) :
    id ∈ (es.filter (!isOf containerType ·)).map Element.id ↔ id ∈ es.map Element.id := by
  constructor
  · exact fun hid => (List.filter_sublist.map _).subset hid
  · intro hid
    obtain ⟨e, he, rfl⟩ := List.mem_map.1 hid
    refine List.mem_map_of_mem (List.mem_filter.2 ⟨he, ?_⟩)
    cases e with
    | inst i =>
      rcases h with h | h
      · cases h
      · change i.typeName ≠ containerType at h
        simpa [isOf, Element.inst?] using h
    | _ => rfl

/-- The labels take the place of the containers. -/
theorem mem_ids_of_label_iff {type : ObjectType Element} {container l : Instance Element}
    (htype : type? es = some type) (hl : l ∈ labels type container)
    (hkind : ∀ e ∈ ts, e.id.kind = .type) :
    l.id ∈ (es.filter (!isOf containerType ·) ++ ts).map Element.id ↔ l.id ∈ es.map Element.id := by
  have hnone : l.id ∉ ts.map Element.id := by
    intro hmem
    obtain ⟨e, he, hid⟩ := List.mem_map.1 hmem
    have hinst := hkind e he
    rw [hid, id_of_mem_labels hl] at hinst
    cases hinst
  have hname : l.id.typeName ≠ containerType := by
    rw [id_of_mem_labels hl]
    change type.id.typeName ≠ containerType
    rw [typeName_of_type? htype]
    decide
  rw [List.map_append, List.mem_append, mem_ids_filter_iff (.inr hname), or_iff_left hnone]

theorem nodup_split_of_some {type : ObjectType Element} {container : Instance Element}
    (hcontainer : container? es = some container) (htype : type? es = some type)
    (hes : (es.map Element.id).Nodup) (hts : (ts.map Element.id).Nodup)
    (hkind : ∀ e ∈ ts, e.id.kind = .type) (hinst : ∀ e ∈ ts, e.isInst = false)
    (hname : ∀ e ∈ ts, e.id.typeName ≠ labelType) :
    ((split (es ++ ts)).map Element.id).Nodup ↔
      (∀ e ∈ ts, e.id ∉ es.map Element.id) ∧
        ((labels type container).map (·.name)).Nodup ∧
          ∀ l ∈ labels type container, l.id ∉ es.map Element.id := by
  have hfilter : ts.filter (!isOf containerType ·) = ts := by
    refine List.filter_eq_self.2 fun e he => ?_
    cases e with
    | inst i => cases hinst _ he
    | _ => rfl
  have hkept : ((es.filter (!isOf containerType ·)).map Element.id).Nodup :=
    hes.sublist (List.filter_sublist.map _)
  have htypes : (∀ e ∈ ts, e.id ∉ (es.filter (!isOf containerType ·)).map Element.id) ↔
      ∀ e ∈ ts, e.id ∉ es.map Element.id :=
    forall₂_congr fun e he => not_congr (mem_ids_filter_iff (.inl (hkind e he)))
  have hlabels : (∀ e ∈ (labels type container).map Element.inst,
      e.id ∉ (es.filter (!isOf containerType ·) ++ ts).map Element.id) ↔
      ∀ l ∈ labels type container, l.id ∉ es.map Element.id := by
    rw [List.forall_mem_map]
    exact forall₂_congr fun l hl => not_congr (mem_ids_of_label_iff htype hl hkind)
  have hnames : (((labels type container).map Element.inst).map Element.id).Nodup ↔
      ((labels type container).map (·.name)).Nodup := by
    rw [List.map_map]
    exact nodup_ids_iff
  -- what was kept, the types that were added and the labels, each against the lists before it
  rw [split, container?_append hinst, type?_append hname, hcontainer, htype]
  simp only [List.filter_append, hfilter, Element.nodup_ids_append, hkept, hts, htypes, hlabels,
    hnames, true_and]

/-- What is split has distinct ids unless labels clash or a type that was added is there already. -/
theorem nodup_split_iff (hes : (es.map Element.id).Nodup) (hts : (ts.map Element.id).Nodup)
    (hkind : ∀ e ∈ ts, e.id.kind = .type) (hinst : ∀ e ∈ ts, e.isInst = false)
    (hname : ∀ e ∈ ts, e.id.typeName ≠ labelType) :
    ((split (es ++ ts)).map Element.id).Nodup ↔
      (∀ e ∈ ts, e.id ∉ es.map Element.id) ∧ ¬ Clash es := by
  by_cases hsplit : ∃ container type, container? es = some container ∧ type? es = some type
  · obtain ⟨container, type, hcontainer, htype⟩ := hsplit
    rw [nodup_split_of_some hcontainer htype hes hts hkind hinst hname,
      clash_iff hcontainer htype, not_or, not_not]
    simp only [not_exists, not_and]
  · have hclash : ¬ Clash es := by
      rintro ⟨container, type, hcontainer, htype, -⟩
      exact hsplit ⟨container, type, hcontainer, htype⟩
    rw [split_eq_self (by rwa [container?_append hinst, type?_append hname])]
    simp only [Element.nodup_ids_append, hes, hts, hclash, true_and, not_false_iff, and_true]

/-- Besides labels the split brings in nothing. -/
theorem filter_ids_split_sublist {typeName : String} (h : typeName ≠ labelType) :
    (((split es).map Element.id).filter (·.typeName = typeName)).Sublist
      ((es.map Element.id).filter (·.typeName = typeName)) := by
  rw [split]
  split
  next container type hcontainer htype =>
    have hnone : (((labels type container).map Element.inst).map Element.id).filter
        (·.typeName = typeName) = [] := by
      refine List.filter_eq_nil_iff.2 fun id hid => ?_
      rw [List.map_map] at hid
      obtain ⟨l, hl, rfl⟩ := List.mem_map.1 hid
      have hname : l.id.typeName = labelType := by
        rw [id_of_mem_labels hl]
        exact typeName_of_type? htype
      change ¬ decide (l.id.typeName = typeName) = true
      rw [hname]
      simpa using h.symm
    rw [List.map_append, List.filter_append, hnone, List.append_nil]
    exact (List.filter_sublist.map _).filter _
  · exact .refl _

end

end ElementSync.Labels
