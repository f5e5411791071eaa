import ElementSync.Proofs.ConditionLogic.Survival
import ElementSync.Proofs.Fetch.ChangeTimes
import ElementSync.Proofs.Fetch.Filtered
import ElementSync.Proofs.Fetch.Lookups

/-!
# The references of fetched elements

Three filters bring references into fetched elements, each to records that it sees. None of them
takes a record away afterwards, so wherever a fetched element refers to, there is an element.
-/

namespace ElementSync

open RecordReferences

def Element.references (e : Element) : List (Reference Element) :=
  Values.referenceList e.annotations ++
    match e with
    | .objectType t => t.fields.flatMap fun f => Values.referenceList f.annotations
    | .field _ => []
    | .inst i => Values.referenceList i.value

namespace Reference

def IsTo (es : List Element) (r : Reference Element) : Prop :=
  ∃ d, .inst d ∈ es ∧ r = .ofElement (.inst d)

structure IsWithin (ids : List ElementId) (r : Reference Element) : Prop where
  mem : r.target ∈ ids
  isInst : r.target.kind = .inst
  handle : ∀ e, r.handle = some e → e.id = r.target

theorem IsTo.isWithin {es : List Element} {r : Reference Element} (h : r.IsTo es) :
    r.IsWithin (es.map Element.id) := by
  obtain ⟨d, hd, rfl⟩ := h
  refine ⟨List.mem_map_of_mem hd, rfl, ?_⟩
  intro e he
  cases he
  rfl

end Reference

namespace Element

@[simp] theorem id_setAnnotations (e : Element) (as : Values Element) :
    (e.setAnnotations as).id = e.id := by
  cases e <;> rfl

theorem mem_references_setAnnotations {e : Element} {as : Values Element} {r : Reference Element}
    (h : r ∈ (e.setAnnotations as).references) : r ∈ as.referenceList ∨ r ∈ e.references := by
  cases e <;> exact (List.mem_append.1 h).imp_right (List.mem_append_right _)

end Element

/-! ### Rewriting element by element -/

def Values.LinksTo (es : List Element) (old new : Values Element) : Prop :=
  ∀ r ∈ new.referenceList, r ∈ old.referenceList ∨ r.IsTo es

theorem Values.LinksTo.put {es : List Element} {old new : Values Element} (h : LinksTo es old new)
    {key : String} {v : Value Element} (hv : ∀ r ∈ v.references, r ∈ old.referenceList ∨ r.IsTo es) :
    LinksTo es old (Assoc.put new key v) := by
  intro r hr
  rcases mem_referenceList_put hr with hr | hr
  · exact hv r hr
  · exact h r hr

namespace Instance

def LinksTo (es : List Element) (i j : Instance Element) : Prop :=
  ∃ vs, j = { i with value := vs } ∧ Values.LinksTo es i.value vs

theorem LinksTo.refl (es : List Element) (i : Instance Element) : i.LinksTo es i :=
  ⟨i.value, rfl, fun _ => .inl⟩

theorem LinksTo.set {es : List Element} {i j : Instance Element} (h : i.LinksTo es j)
    {key : String} {v : Value Element}
    (hv : ∀ r ∈ v.references, r ∈ Values.referenceList i.value ∨ r.IsTo es) :
    i.LinksTo es (j.set key v) := by
  obtain ⟨vs, rfl, hvs⟩ := h
  exact ⟨_, rfl, hvs.put hv⟩

end Instance

namespace Element

/-- A rewriting of elements that keeps their ids and may refer to instances of `es` besides. -/
structure LinksTo (es : List Element) (f : Element → Element) : Prop where
  id_eq : ∀ e, (f e).id = e.id
  references : ∀ e, ∀ r ∈ (f e).references, r ∈ e.references ∨ r.IsTo es

variable {es : List Element} {f : Element → Element}

theorem LinksTo.map_id (h : LinksTo es f) (ds : List Element) :
    (ds.map f).map Element.id = ds.map Element.id := by
  rw [List.map_map]
  exact List.map_congr_left fun e _ => h.id_eq e

theorem LinksTo.mapInst {g : Instance Element → Instance Element}
    (h : ∀ i : Instance Element, i.LinksTo es (g i)) : LinksTo es (mapInst g) := by
  constructor
  · intro e
    cases e with
    | inst i =>
      obtain ⟨vs, hvs, -⟩ := h i
      rw [Element.mapInst, hvs]
      rfl
    | _ => rfl
  · intro e r hr
    cases e with
    | inst i =>
      obtain ⟨vs, hvs, hlinks⟩ := h i
      rw [Element.mapInst, hvs] at hr
      rcases List.mem_append.1 hr with hr | hr
      · exact .inl (List.mem_append_left _ hr)
      · exact (hlinks r hr).imp_left (List.mem_append_right _)
    | _ => exact .inl hr

end Element

/-! ### The filters that rewrite -/

section
variable (es : List Element)

theorem RecordReferences.linkField_linksTo {i j : Instance Element} (f : Field Element)
    (h : i.LinksTo es j) : i.LinksTo es (linkField (records es) j f) := by
  cases htarget : target? (records es) j f with
  | none => rwa [linkField_of_none _ htarget]
  | some d =>
    rw [linkField_of_target? _ htarget]
    refine h.set ?_
    intro r hr
    rw [Value.references_reference, List.mem_singleton] at hr
    obtain ⟨_, _, _, _, _, _, hd, _⟩ := leadsTo_of_target? htarget
    exact .inr ⟨d, hd.mem, hr⟩

theorem RecordReferences.linkInstance_linksTo (i : Instance Element) :
    i.LinksTo es (linkInstance (records es) i) := by
  -- a field may be linked after others were, so what the fold starts from is any revision of `i`
  have hfold : ∀ (fs : List (Field Element)) (j : Instance Element), i.LinksTo es j →
      i.LinksTo es (fs.foldl (linkField (records es)) j) := by
    intro fs
    induction fs with
    | nil => exact fun j hj => hj
    | cons f fs ih => exact fun j hj => ih _ (linkField_linksTo es f hj)
  rw [linkInstance]
  split
  · exact hfold _ i (.refl es i)
  · exact .refl es i

theorem RecordReferences.linkElement_linksTo :
    Element.LinksTo es (linkElement (records es)) :=
  linkElement_eq _ ▸ .mapInst (linkInstance_linksTo es)

theorem ConditionLogic.unpackInstance_linksTo (i : Instance Element) :
    i.LinksTo es (unpackInstance es i) := by
  rw [unpackInstance]
  split
  · exact .refl es i
  next k _ =>
    split
    next t ht =>
      obtain ⟨raw, -, ht⟩ := Option.bind_eq_some_iff.1 ht
      refine (Instance.LinksTo.refl es i).set ?_
      intro r hr
      rw [Value.references_template] at hr
      exact .inr (exists_of_mem_references ht hr)
    · exact .refl es i

theorem ConditionLogic.unpackElement_linksTo : Element.LinksTo es (unpackElement es) :=
  unpackElement_eq es ▸ .mapInst (unpackInstance_linksTo es)

theorem IssueTypes.flattenInstance_linksTo (i : Instance Element) :
    i.LinksTo es (flattenInstance i) := by
  rw [flattenInstance]
  split
  · split
    next ms hms =>
      obtain ⟨v, hv, hitems⟩ := Option.bind_eq_some_iff.1 hms
      obtain rfl := Value.eq_sequence_of_sequence? hitems
      refine (Instance.LinksTo.refl es i).set ?_
      intro r hr
      rw [Value.references_sequence] at hr
      obtain ⟨w, hw, hr⟩ := List.mem_flatMap.1 hr
      obtain ⟨m, hm, hw⟩ := List.mem_filterMap.1 hw
      obtain ⟨entries, hentries, hw⟩ := Option.bind_eq_some_iff.1 hw
      obtain rfl := Value.eq_mapping_of_mapping? hentries
      refine .inl (Values.mem_referenceList_of_lookup hv ?_)
      rw [Value.references_sequence]
      refine List.mem_flatMap.2 ⟨_, hm, ?_⟩
      rw [Values.references_mapping_eq]
      exact Values.mem_referenceList_of_lookup hw hr
    · exact .refl es i
  · exact .refl es i

theorem IssueTypes.flattenElement_linksTo : Element.LinksTo es flattenElement :=
  flattenElement_eq ▸ .mapInst (flattenInstance_linksTo es)

end

namespace PackageDependencies
variable {es : List Element}

theorem exists_of_packageOf? {e package : Element} (h : packageOf? es e = some package) :
    ∃ d, .inst d ∈ es ∧ package = .inst d := by
  rw [packageOf?] at h
  split at h
  · have hinst := List.find?_some h
    have hmem := List.mem_reverse.1 (List.mem_of_find?_eq_some h)
    cases package with
    | inst d => exact ⟨d, hmem, rfl⟩
    | _ => cases hinst
  · cases h

theorem extend_linksTo {package e : Element} (h : packageOf? es e = some package)
    (annotations : Values Element) : Values.LinksTo es annotations (extend package annotations) := by
  obtain ⟨d, hd, rfl⟩ := exists_of_packageOf? h
  have hself : Values.LinksTo es annotations annotations := fun _ => .inl
  have hadd : ∀ ds : List (Value Element),
      (∀ r ∈ ds.flatMap Value.references, r ∈ annotations.referenceList) →
      Values.LinksTo es annotations (Assoc.put annotations AnnotationKey.generatedDependencies
        (.sequence (ds ++ [.mapping [(referenceKey, .reference (.ofElement (.inst d)))]]))) := by
    intro ds hds
    refine hself.put ?_
    intro r hr
    simp only [Value.references_sequence, List.flatMap_append, List.mem_append,
      List.flatMap_singleton, Value.references_mapping, Value.references_reference,
      List.mem_singleton] at hr
    exact hr.imp (hds r) fun hr => ⟨d, hd, hr⟩
  rw [extend]
  split
  · exact hadd [] nofun
  next ds hds =>
    split
    · exact hself
    · refine hadd ds fun r hr => Values.mem_referenceList_of_lookup hds ?_
      rwa [Value.references_sequence]
  · exact hself

theorem linkField_linksTo (f : Field Element) :
    Values.LinksTo es f.annotations (linkField es f).annotations := by
  rw [linkField]
  split
  next package h => exact extend_linksTo h f.annotations
  · exact fun _ => .inl

theorem linkElement_of_package {e package : Element} (h : packageOf? es e = some package) :
    linkElement es e = e.setAnnotations (extend package e.annotations) := by
  simp only [linkElement, h]

theorem linkElement_linksTo (es : List Element) : Element.LinksTo es (linkElement es) := by
  constructor
  · intro e
    cases h : packageOf? es e with
    | some package => rw [linkElement_of_package h, Element.id_setAnnotations]
    | none => cases e <;> simp [linkElement, h, Element.id]
  · intro e r hr
    cases h : packageOf? es e with
    | some package =>
      rw [linkElement_of_package h] at hr
      rcases Element.mem_references_setAnnotations hr with hr | hr
      · exact (extend_linksTo h _ r hr).imp_left (List.mem_append_left _)
      · exact .inl hr
    | none =>
      cases e with
      | objectType t =>
        simp only [linkElement, h] at hr
        rcases List.mem_append.1 hr with hr | hr
        · exact .inl (List.mem_append_left _ hr)
        · obtain ⟨g, hg, hr⟩ := List.mem_flatMap.1 hr
          obtain ⟨f, hf, rfl⟩ := List.mem_map.1 hg
          exact (linkField_linksTo f r hr).imp_left fun hr =>
            List.mem_append_right _ (List.mem_flatMap.2 ⟨f, hf, hr⟩)
      | field f =>
        simp only [linkElement, h] at hr
        exact .inl hr
      | inst i =>
        simp only [linkElement, h] at hr
        exact .inl hr

end PackageDependencies

/-! ### Times of the last change -/

namespace ChangeTimes

theorem referenceList_timesOf {times : Values Element} {typeName : String} {r : Reference Element}
    (h : r ∈ (timesOf times typeName).referenceList) : r ∈ times.referenceList := by
  rw [timesOf] at h
  cases hlookup : times.lookup typeName with
  | none =>
    rw [hlookup] at h
    cases h
  | some v =>
    rw [hlookup, Option.bind_some] at h
    cases hentries : v.mapping? with
    | none =>
      rw [hentries] at h
      cases h
    | some entries =>
      rw [hentries] at h
      obtain rfl := Value.eq_mapping_of_mapping? hentries
      exact Values.mem_referenceList_of_lookup hlookup (by rwa [Values.references_mapping_eq])

/-- A time is text. -/
theorem referenceList_record {times : Values Element} {e : Entry} {r : Reference Element}
    (h : r ∈ (record times e).referenceList) : r ∈ times.referenceList := by
  rw [record] at h
  split at h
  · exact h
  · rcases Values.mem_referenceList_put h with h | h
    · rw [Values.references_mapping_eq] at h
      rcases Values.mem_referenceList_put h with h | h
      · rw [Value.references_text] at h
        cases h
      · exact referenceList_timesOf h
    · exact h

theorem referenceList_foldl_record {entries : List Entry} {times : Values Element}
    {r : Reference Element} (h : r ∈ (entries.foldl record times).referenceList) :
    r ∈ times.referenceList := by
  induction entries generalizing times with
  | nil => exact h
  | cons e entries ih => exact referenceList_record (ih h)

theorem update_cases (source : ElementSource) (es : List Element) :
    update source es = es ∨ ∃ times : Values Element,
      (∀ r ∈ times.referenceList, r ∈ ((previous? source).getD []).referenceList) ∧
      update source es = es.filter (·.id.typeName ≠ singletonType) ++
        [.objectType type, .inst (singleton times)] := by
  by_cases hwrites : Writes source es
  · exact .inr ⟨merged source es, fun _ => referenceList_foldl_record, update_of_writes hwrites⟩
  · exact .inl (update_of_not_writes hwrites)

end ChangeTimes

/-! ### The whole of the filters -/

namespace ElementId

def LacksInstancesOf (typeName : String) (ids : List ElementId) : Prop :=
  ∀ id ∈ ids, id.kind = .inst → id.typeName ≠ typeName

end ElementId

def Element.RefersWithin (es : List Element) : Prop :=
  ∀ e ∈ es, ∀ r ∈ e.references, r.IsWithin (es.map Element.id)

variable {es : List Element}

theorem Element.RefersWithin.map {f : Element → Element} (h : RefersWithin es)
    (hf : LinksTo es f) : RefersWithin (es.map f) := by
  intro e he r hr
  rw [hf.map_id]
  obtain ⟨d, hd, rfl⟩ := List.mem_map.1 he
  rcases hf.references d r hr with hold | hnew
  · exact h d hd r hold
  · exact hnew.isWithin

theorem RecordReferences.map_id_link (es : List Element) :
    (link es).map Element.id = es.map Element.id :=
  (linkElement_linksTo es).map_id es

theorem PackageDependencies.map_id_link (es : List Element) :
    (link es).map Element.id = es.map Element.id :=
  (linkElement_linksTo es).map_id es

theorem IssueTypes.map_id_flatten (es : List Element) :
    (flatten es).map Element.id = es.map Element.id :=
  (flattenElement_linksTo es).map_id es

namespace FilterContext
variable (context : FilterContext)

theorem map_id_unpackLogic (es : List Element) :
    (context.unpackLogic es).map Element.id = es.map Element.id := by
  rw [unpackLogic]
  split
  · exact (ConditionLogic.unpackElement_linksTo es).map_id es
  · rfl

theorem refersWithin_unpackLogic (h : Element.RefersWithin es) :
    Element.RefersWithin (context.unpackLogic es) := by
  rw [unpackLogic]
  split
  · exact h.map (ConditionLogic.unpackElement_linksTo es)
  · exact h

end FilterContext

theorem Labels.split_eq_self
    (h : ¬ ∃ container type, container? es = some container ∧ type? es = some type) :
    split es = es := by
  rw [split]
  split
  next container type hcontainer htype => exact absurd ⟨container, type, hcontainer, htype⟩ h
  · rfl

theorem Labels.split_of_lacks (h : ElementId.LacksInstancesOf containerType (es.map Element.id)) :
    split es = es := by
  refine split_eq_self ?_
  rintro ⟨container, -, hcontainer, -⟩
  obtain ⟨e, hfind, hinst⟩ := Option.bind_eq_some_iff.1 hcontainer
  have hof := List.find?_some hfind
  cases e with
  | inst i =>
    exact h i.id (List.mem_map_of_mem (List.mem_of_find?_eq_some hfind)) rfl (of_decide_eq_true hof)
  | _ => cases hinst

/-- Only elements of the type of the singleton go, and no element refers to one. -/
theorem ChangeTimes.refersWithin_update {source : ElementSource} (h : Element.RefersWithin es)
    (hlacks : ElementId.LacksInstancesOf singletonType (es.map Element.id))
    (hprev : ((previous? source).getD []).referenceList = []) :
    Element.RefersWithin (update source es) := by
  rcases update_cases source es with hsame | ⟨times, htimes, hupdate⟩
  · rwa [hsame]
  · intro e he r hr
    rw [hupdate] at he ⊢
    rcases List.mem_append.1 he with he | he
    · have hwithin := h e (List.mem_filter.1 he).1 r hr
      obtain ⟨d, hd, hid⟩ := List.mem_map.1 hwithin.mem
      refine ⟨?_, hwithin.isInst, hwithin.handle⟩
      -- the target stays: only elements of the type of the singleton go, and it is none of these
      have hkept : d ∈ es.filter (·.id.typeName ≠ singletonType) := by
        refine List.mem_filter.2 ⟨hd, ?_⟩
        simpa using hlacks _ (List.mem_map_of_mem hd) (by rw [hid]; exact hwithin.isInst)
      rw [← hid, List.map_append]
      exact List.mem_append_left _ (List.mem_map_of_mem hkept)
    · have hnone : e.references = [] := by
        simp only [List.mem_cons, List.not_mem_nil, or_false] at he
        rcases he with rfl | rfl
        · rfl
        · exact List.eq_nil_iff_forall_not_mem.2 fun r hr => by simpa [hprev] using htimes r hr
      rw [hnone] at hr
      cases hr

theorem FilterContext.refersWithin_refine (context : FilterContext) (h : Element.RefersWithin es)
    (hlabels : ElementId.LacksInstancesOf Labels.containerType (es.map Element.id))
    (htimes : ElementId.LacksInstancesOf ChangeTimes.singletonType (es.map Element.id))
    (hprev : ((ChangeTimes.previous? context.source).getD []).referenceList = []) :
    Element.RefersWithin (context.refine es) := by
  have hlinked := h.map (RecordReferences.linkElement_linksTo es)
  have hunpacked := context.refersWithin_unpackLogic hlinked
  have hids : (context.unpackLogic (link es)).map Element.id = es.map Element.id :=
    (context.map_id_unpackLogic _).trans (RecordReferences.map_id_link es)
  rw [refine, Labels.split_of_lacks (by rwa [hids])]
  have hdependent := hunpacked.map (PackageDependencies.linkElement_linksTo _)
  refine ChangeTimes.refersWithin_update
    (hdependent.map (IssueTypes.flattenElement_linksTo _)) ?_ hprev
  rwa [IssueTypes.map_id_flatten, PackageDependencies.map_id_link, hids]

end ElementSync
