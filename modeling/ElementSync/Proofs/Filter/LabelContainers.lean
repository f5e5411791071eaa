import ElementSync.Proofs.Fetch.SplitLabels

/-!
# Containers of labels

The system has one container of labels, but nothing keeps a list from having more of them. A fetch
splits the first one and takes away all, and after a deploy every change of a container is taken
away, whether labels were merged into it or not.
-/

namespace ElementSync

namespace Labels

def containers (es : List Element) : List (Instance Element) :=
  (es.filter (isOf containerType)).filterMap Element.inst?

def entries (c : Instance Element) : List (Value Element) :=
  ((c.get? labelsField).bind Value.sequence?).getD []

def HoldsLabels (c : Instance Element) : Prop :=
  ∃ vs, c.get? labelsField = some (.sequence vs) ∧ ∀ v ∈ vs, ∃ values name,
    v = .mapping values ∧ values.lookup fullNameField = some (.text name)

/-! ### Splitting the first of several containers -/

variable {es : List Element} {c : Instance Element} {type : ObjectType Element}

theorem container?_eq_head? (es : List Element) : container? es = (containers es).head? := by
  induction es with
  | nil => rfl
  | cons e es ih =>
    by_cases he : isOf containerType e
    · cases e with
      | inst i => simp [container?, containers, he, Element.inst?]
      | _ => cases he
    · simpa [container?, containers, he] using ih

theorem map_value_labels (hc : HoldsLabels c) (type : ObjectType Element) :
    (labels type c).map (fun l => Value.mapping l.value) = entries c := by
  obtain ⟨vs, hvs, hlabels⟩ := hc
  have hback : ∀ v ∈ vs, (label? type v).map (fun l => Value.mapping l.value) = some v := by
    intro v hv
    obtain ⟨values, name, rfl, hname⟩ := hlabels v hv
    simp [label?, Value.mapping?, hname, Value.text, Value.text?]
  rw [labels, entries, hvs, List.map_filterMap]
  simp only [Option.bind_some, Value.sequence?, Option.getD_some]
  rw [List.filterMap_congr hback, List.filterMap_some]

theorem isSome_type? (h : ∃ t, .objectType t ∈ es ∧ t.id.typeName = labelType) :
    ∃ type, type? es = some type := by
  obtain ⟨t, ht, hname⟩ := h
  rw [← Option.isSome_iff_exists, type?, List.find?_isSome]
  exact ⟨t, List.mem_filterMap.2 ⟨_, ht, rfl⟩, decide_eq_true hname⟩

theorem typeName_of_mem_labels (htype : type? es = some type) {l : Instance Element}
    (h : l ∈ labels type c) : l.typeName = labelType :=
  (congrArg ElementId.typeName (id_of_mem_labels h)).trans (typeName_of_type? htype)

theorem text?_of_mem_labels {l : Instance Element} (h : l ∈ labels type c) :
    l.text? fullNameField = some l.name := by
  obtain ⟨v, -, hv⟩ := List.mem_filterMap.1 h
  obtain ⟨values, -, hv⟩ := Option.bind_eq_some_iff.1 hv
  obtain ⟨name, hname, hv⟩ := Option.bind_eq_some_iff.1 hv
  cases hv
  exact hname

theorem isOf_of_containers_eq_nil (h : containers es = []) {e : Element} (he : e ∈ es) :
    isOf containerType e = false := by
  refine Bool.eq_false_iff.2 fun hof => ?_
  cases e with
  | inst i =>
    have hmem : i ∈ containers es :=
      List.mem_filterMap.2 ⟨.inst i, List.mem_filter.2 ⟨he, hof⟩, rfl⟩
    rw [h] at hmem
    cases hmem
  | _ => cases hof

/-- The split leaves everything but containers where it is, and adds the labels of the first
container. -/
theorem split_eq (htype : type? es = some type) : split es =
    es.filter (!isOf containerType ·) ++
      (((containers es).take 1).flatMap (labels type)).map .inst := by
  rw [split, container?_eq_head?, htype]
  cases hcontainers : containers es with
  | nil =>
    have hkept : es.filter (!isOf containerType ·) = es :=
      List.filter_eq_self.2 fun e he => by simp [isOf_of_containers_eq_nil hcontainers he]
    simp [hkept]
  | cons c cs => simp

/-- Without its containers a list holds the labels of the first one, and no others: all labels are
kept if and only if the later containers have none. -/
theorem split_keeps_labels_iff (es : List Element)
    (htype : ∃ t, .objectType t ∈ es ∧ t.id.typeName = labelType)
    (hes : ∀ c ∈ containers es, HoldsLabels c) :
    ∃ added : List (Instance Element),
      split es = es.filter (!isOf containerType ·) ++ added.map .inst ∧
      (∀ e ∈ split es, isOf containerType e = false) ∧
      (∀ l ∈ added, l.typeName = labelType ∧ l.text? fullNameField = some l.name) ∧
      added.map (fun l => Value.mapping l.value) = ((containers es).take 1).flatMap entries ∧
      (added.map (fun l => Value.mapping l.value) = (containers es).flatMap entries ↔
        ∀ c ∈ (containers es).drop 1, entries c = []) := by
  obtain ⟨type, htype⟩ := isSome_type? htype
  let added := ((containers es).take 1).flatMap (labels type)
  have hlabels : ∀ l ∈ added, l.typeName = labelType ∧ l.text? fullNameField = some l.name := by
    intro l hl
    obtain ⟨c, -, hl⟩ := List.mem_flatMap.1 hl
    exact ⟨typeName_of_mem_labels htype hl, text?_of_mem_labels hl⟩
  have hvalues : added.map (fun l => Value.mapping l.value) =
      ((containers es).take 1).flatMap entries := by
    rw [List.map_flatMap]
    refine List.flatMap_congr fun c hc => ?_
    exact map_value_labels (hes c (List.mem_of_mem_take hc)) type
  refine ⟨added, split_eq htype, ?_, hlabels, hvalues, ?_⟩
  · intro e he
    rw [split_eq htype] at he
    rcases List.mem_append.1 he with he | he
    · simpa using (List.mem_filter.1 he).2
    · obtain ⟨l, hl, rfl⟩ := List.mem_map.1 he
      refine decide_eq_false ?_
      rw [(hlabels l hl).1]
      decide
  · have hparts : (containers es).flatMap entries =
        ((containers es).take 1).flatMap entries ++ ((containers es).drop 1).flatMap entries := by
      rw [← List.flatMap_append, List.take_append_drop]
    rw [hvalues, hparts, List.self_eq_append_right, List.flatMap_eq_nil_iff]

def entry (name : String) : Value Element := .mapping [(fullNameField, .text name)]

def containersOf (labels : List (String × List String)) : List Element :=
  labels.map (fun (name, names) => .inst
      { name
        type := { id := .type salesforce containerType }
        value := [(labelsField, .sequence (names.map entry))] }) ++
    [.objectType { id := .type salesforce labelType }]

theorem holdsLabels_of_mem_containersOf {labels : List (String × List String)} :
    ∀ c ∈ containers (containersOf labels), HoldsLabels c := by
  intro c hc
  obtain ⟨e, he, hinst⟩ := List.mem_filterMap.1 hc
  rcases List.mem_append.1 (List.mem_filter.1 he).1 with he | he
  · obtain ⟨⟨_, names⟩, -, rfl⟩ := List.mem_map.1 he
    cases hinst
    refine ⟨names.map entry, rfl, fun v hv => ?_⟩
    obtain ⟨name, -, rfl⟩ := List.mem_map.1 hv
    exact ⟨_, name, rfl, rfl⟩
  · cases List.mem_singleton.1 he
    cases hinst

theorem exists_labelType_containersOf (labels : List (String × List String)) :
    ∃ t, .objectType t ∈ containersOf labels ∧ t.id.typeName = labelType :=
  ⟨{ id := .type salesforce labelType }, by simp [containersOf], rfl⟩

/-- An empty container behind another one does no harm. -/
theorem split_keeps_labels_iff_empty :
    let es := containersOf [("CustomLabels", ["Greeting", "Farewell"]), ("Other", [])]
    ∃ added : List (Instance Element),
      split es = es.filter (!isOf containerType ·) ++ added.map .inst ∧
      added.map (fun l => Value.mapping l.value) = [entry "Greeting", entry "Farewell"] := by
  intro es
  obtain ⟨added, hsplit, -, -, -, hall⟩ := split_keeps_labels_iff es
    (exists_labelType_containersOf _) holdsLabels_of_mem_containersOf
  refine ⟨added, hsplit, hall.2 fun c hc => ?_⟩
  cases List.mem_singleton.1 hc
  rfl

/-- Of two containers with a label each, the label of the second one is lost. -/
theorem split_loses_farewell :
    let es := containersOf [("CustomLabels", ["Greeting"]), ("Other", ["Farewell"])]
    (∃ t, .objectType t ∈ es ∧ t.id.typeName = labelType) ∧
      (∀ c ∈ containers es, HoldsLabels c) ∧
      (containers es).flatMap entries = [entry "Greeting", entry "Farewell"] ∧
      ¬ ∃ added : List (Instance Element),
        split es = es.filter (!isOf containerType ·) ++ added.map .inst ∧
        added.map (fun l => Value.mapping l.value) = (containers es).flatMap entries := by
  intro es
  refine ⟨exists_labelType_containersOf _, holdsLabels_of_mem_containersOf, rfl, ?_⟩
  -- one label is left by the split, where two were in the containers
  rintro ⟨added, hsplit, hvalues⟩
  have hone := congrArg List.length hsplit
  have htwo := congrArg List.length hvalues
  rw [List.length_append, List.length_map] at hone
  rw [List.length_map] at htwo
  have hleft : (split es).length = 2 := rfl
  have hkept : (es.filter (!isOf containerType ·)).length = 1 := rfl
  have hentries : ((containers es).flatMap entries).length = 2 := rfl
  omega

/-! ### Undoing a merge that was none -/

variable {cs : List (Change Element)}

theorem restore_nil_eq_filter (cs : List (Change Element)) :
    restore [] cs = cs.filter (!isContainerChange ·) := by
  rw [restore]
  split
  case isTrue => exact List.append_nil _
  case isFalse hnone =>
    refine (List.filter_eq_self.2 fun c hc => ?_).symm
    simpa using fun h => hnone (List.any_eq_true.2 ⟨c, hc, h⟩)

theorem filter_not_isContainerChange_eq_self_iff :
    cs.filter (!isContainerChange ·) = cs ↔ Lacks containerType cs := by
  rw [List.filter_eq_self]
  simp [Lacks, isContainerChange]

end Labels

namespace Filter
variable {σ : Type}

/-- With nothing saved the filter takes changes of containers out of what was applied. -/
theorem onDeploy_labels_nil (applied : List (Change Element)) (s : Session σ) :
    onDeploy applied (labels []) s =
      ((labels [], ⟨applied.filter (!Labels.isContainerChange ·), .ok ()⟩), s) := by
  rw [← Labels.restore_nil_eq_filter]
  rfl

/-- Without changes of labels and with nothing saved, changes pass the filter before a deploy as
they are. After the deploy, whatever was applied, changes of containers are taken out of it; so the
changes come out as they are if and only if none is of a container. -/
theorem labels_undo_iff (context : FilterContext) (cs : List (Change Element)) (s : Session σ)
    (hcs : Labels.Lacks Labels.labelType cs) :
    preDeploy context cs (labels []) s = ((labels [], ⟨cs, .ok ()⟩), s) ∧
      (∀ (applied : List (Change Element)) (s' : Session σ), onDeploy applied (labels []) s' =
        ((labels [], ⟨applied.filter (!Labels.isContainerChange ·), .ok ()⟩), s')) ∧
      (onDeploy cs (labels []) s = ((labels [], ⟨cs, .ok ()⟩), s) ↔
        Labels.Lacks Labels.containerType cs) := by
  refine ⟨?_, onDeploy_labels_nil, ?_⟩
  · simp only [preDeploy, Labels.merge_of_lacks context.source hcs,
      Labels.filter_isLabelChange_eq_nil_iff.2 hcs]
    rfl
  · rw [onDeploy_labels_nil, ← Labels.filter_not_isContainerChange_eq_self_iff]
    constructor
    · exact congrArg fun run : (Filter × Step _ Unit) × Session σ => run.1.2.left
    · intro hsame
      rw [hsame]

/-- A profile and its type come and go as they are. -/
theorem labels_undo_iff_profile :
    let profile : Instance Element :=
      { name := "Admin", type := { id := .type salesforce "Profile" } }
    let changes : List (Change Element) :=
      [.addition (.inst profile), .removal (.objectType profile.type)]
    Labels.Lacks Labels.labelType changes ∧
      preDeploy {} changes (labels []) ({ state := () } : Session Unit) =
        ((labels [], ⟨changes, .ok ()⟩), { state := () }) ∧
      onDeploy changes (labels []) ({ state := () } : Session Unit) =
        ((labels [], ⟨changes, .ok ()⟩), { state := () }) := by
  intro profile changes
  have hlabels : Labels.Lacks Labels.labelType changes := by unfold Labels.Lacks; decide
  have hcontainers : Labels.Lacks Labels.containerType changes := by unfold Labels.Lacks; decide
  obtain ⟨hpre, -, hpost⟩ := labels_undo_iff {} changes ({ state := () } : Session Unit) hlabels
  exact ⟨hlabels, hpre, hpost.2 hcontainers⟩

/-- A container that was changed and applied as itself is gone from what was applied. -/
theorem labels_undo_container :
    let before : Instance Element :=
      { name := Labels.containerType, type := { id := .type salesforce Labels.containerType } }
    let changes : List (Change Element) :=
      [.modification (.inst before) (.inst (before.set "description" (.text "All labels")))]
    Labels.Lacks Labels.labelType changes ∧
      preDeploy {} changes (labels []) ({ state := () } : Session Unit) =
        ((labels [], ⟨changes, .ok ()⟩), { state := () }) ∧
      onDeploy changes (labels []) ({ state := () } : Session Unit) =
        ((labels [], ⟨[], .ok ()⟩), { state := () }) := by
  intro before changes
  exact ⟨by unfold Labels.Lacks; decide, rfl, rfl⟩

end Filter

end ElementSync
