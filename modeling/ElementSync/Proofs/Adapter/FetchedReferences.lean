import ElementSync.Proofs.Fetch.References

/-!
# Where fetched elements refer to

What comes from the client holds no references, and what the filters refer to are records that
came. So after a fetch every reference leads to a record of the fetch, unless the types by which
filters name elements of their own are types of records.
-/

namespace ElementSync

/-! ### Before the filters -/

theorem FieldSchema.referenceList_toField (parent : ElementId) (f : FieldSchema) :
    Values.referenceList (f.toField parent).annotations = [] := by
  by_cases hlookup : f.referenceTo.isEmpty
  all_goals simp [toField, hlookup, Values.referenceList_eq_flatMap, Value.bool]

theorem TypeSchema.references_toObjectType (schema : TypeSchema) (metadataType : String) :
    Element.references (.objectType (schema.toObjectType metadataType)) = [] := by
  refine List.append_eq_nil_iff.2 ⟨?_, List.flatMap_eq_nil_iff.2 ?_⟩
  · change Values.referenceList (schema.toObjectType metadataType).annotations = []
    rw [annotations_toObjectType]
    simp [Values.referenceList_eq_flatMap]
  · intro f hf
    obtain ⟨field, rfl⟩ := exists_of_mem_fields hf
    exact field.referenceList_toField _

theorem Record.references_toInstance (t : ObjectType Element) (r : Record) (name : String) :
    Element.references (.inst (r.toInstance t name)) = [] := by
  change [] ++ Values.referenceList (Values.ofRecord _) = []
  rw [Values.referenceList_ofRecord, List.append_nil]

section
variable {σ : Type} {client : Client σ} {es : List Element}

theorem Client.IsFetch.references_eq_nil (h : client.IsFetch es) {e : Element} (he : e ∈ es) :
    e.references = [] := by
  obtain ⟨schema, -, rfl | ⟨r, name, rfl⟩⟩ := h.mem he
  · exact schema.references_toObjectType customObject
  · exact r.references_toInstance _ name

/-- The types of records come with them. -/
theorem Client.IsFetch.lacksInstancesOf (h : client.IsFetch es) {typeName : String}
    (hnone : ∀ t, .objectType t ∈ es → t.id.typeName ≠ typeName) :
    ElementId.LacksInstancesOf typeName (es.map Element.id) := by
  intro id hid hinst
  obtain ⟨e, he, rfl⟩ := List.mem_map.1 hid
  obtain ⟨schema, hschema, rfl | ⟨r, name, rfl⟩⟩ := h.mem he
  · exact hnone _ hschema
  · exact hnone _ hschema

end

namespace Adapter
variable {σ : Type} (a : Adapter) (client : Client σ) (maxDescribes : Nat)
  (templates : ConditionLogic.SavedByType) (labels : List (Change Element)) {s s' : Session σ}

theorem refersWithin_refined {es : List Element} (hfetch : client.IsFetch es)
    (htypes : ∀ t, .objectType t ∈ es → t.id.typeName ≠ Labels.containerType ∧
      t.id.typeName ≠ ChangeTimes.singletonType)
    (hprev : ((ChangeTimes.previous? a.source).getD []).referenceList = []) :
    Element.RefersWithin (a.refined client maxDescribes es s) := by
  let tooling := (a.profile.fetchTooling client maxDescribes s).1.elements
  -- the tooling types add no instances, whatever name the client describes them under
  have hlacks : ∀ typeName, ElementId.LacksInstancesOf typeName (es.map Element.id) →
      ElementId.LacksInstancesOf typeName ((es ++ tooling).map Element.id) := by
    intro typeName h id hid hinst
    rw [List.map_append] at hid
    rcases List.mem_append.1 hid with hid | hid
    · exact h id hid hinst
    · obtain ⟨e, he, rfl⟩ := List.mem_map.1 hid
      obtain ⟨schema, rfl⟩ := FetchProfile.exists_of_mem_fetchTooling he
      change (schema.toObjectType ToolingTypes.metadataType).id.kind = .inst at hinst
      rw [TypeSchema.id_toObjectType] at hinst
      cases hinst
  refine a.context.refersWithin_refine ?_ ?_ ?_ hprev
  · intro e he r hr
    have hnone : e.references = [] := by
      rcases List.mem_append.1 he with he | he
      · exact hfetch.references_eq_nil he
      · obtain ⟨schema, rfl⟩ := FetchProfile.exists_of_mem_fetchTooling he
        exact schema.references_toObjectType _
    rw [hnone] at hr
    cases hr
  · exact hlacks _ (hfetch.lacksInstancesOf fun t ht => (htypes t ht).1)
  · exact hlacks _ (hfetch.lacksInstancesOf fun t ht => (htypes t ht).2)

/-- Whatever the client answers, the elements of a fetch are a graph that resolves their
references. -/
theorem fetch_references_resolve {fetched : Fetched}
    (htypes : ∀ data s₁,
      a.profile.fetchRecords client a.config.client.maxDescribes s = (.ok data, s₁) →
      ∀ t, .objectType t ∈ data.elements → t.id.typeName ≠ Labels.containerType ∧
        t.id.typeName ≠ ChangeTimes.singletonType)
    (hprev : ∀ times, ChangeTimes.previous? a.source = some times → times.referenceList = [])
    (hfetch : ((a.withSaved maxDescribes templates labels).fetch client s).1 = .ok fetched) :
    (fetched.elements.map Element.id).Nodup ∧
      ∃ g, ElementGraph.ofElements fetched.elements = .ok g ∧
        ∀ e ∈ fetched.elements, ∀ r ∈ e.references,
          (∃ d, g.resolve r.target = some d ∧ d.id = r.target) ∧
            ∀ h, r.handle = some h → h.id = r.target := by
  obtain ⟨data, s₁, hrecords, helements, hnodup⟩ :=
    a.exists_of_fetch client maxDescribes templates labels hfetch
  have hbrings := a.profile.fetchRecords_brings client a.config.client.maxDescribes s
  rw [hrecords] at hbrings
  have hprev' : ((ChangeTimes.previous? a.source).getD []).referenceList = [] := by
    cases h : ChangeTimes.previous? a.source with
    | none => rfl
    | some times => exact hprev times h
  have hwithin : Element.RefersWithin fetched.elements := by
    rw [helements]
    exact a.refersWithin_refined client maxDescribes hbrings (htypes data s₁ hrecords) hprev'
  refine ⟨hnodup, _, ElementGraph.ofElements_of_nodup hnodup, ?_⟩
  intro e he r hr
  have hr' := hwithin e he r hr
  exact ⟨ElementGraph.exists_resolve_of_mem_ids hr'.mem, hr'.handle⟩

/-! ### Everything that a system in memory has -/

def everything : Adapter :=
  ofProfile {} { selection := some { included := [.empty], excluded := [] } }

def recordTypes (m : InMemory) : List (ObjectType Element) :=
  m.schemas.map fun e => e.2.toObjectType customObject

def fetchInOrder (m : InMemory) : Except Failure Fetched × Session Nat :=
  everything.profile.fetchTypes m.client (recordTypes m)
    (m.client.describeAll (Assoc.keys m.schemas) 10 { state := 0 }).2

def fetchedInOrder (m : InMemory) : Fetched := (fetchInOrder m).1.toOption.getD {}

/-- Where the types are in order, sorting them plays no part. -/
theorem fetchRecords_everything {m : InMemory} {selection : Selection}
    (hselection : everything.profile.selection = some selection)
    (hlisted : (Assoc.keys m.schemas ++ m.failingDescribes).eraseDups = Assoc.keys m.schemas)
    (hincluded : (Assoc.keys m.schemas).filter selection.includes = Assoc.keys m.schemas)
    (hdescribed : (m.client.describeAll (Assoc.keys m.schemas) 10 { state := 0 }).1 =
      m.schemas.map fun e => (e.1, .ok e.2))
    (hnames : (Assoc.keys m.schemas).Pairwise fun a b => !decide (b < a))
    (htypes : (recordTypes m).Pairwise fun a b => !decide (b.id.typeName < a.id.typeName))
    (hok : (fetchInOrder m).1.isOk) :
    everything.profile.fetchRecords m.client 10 { state := 0 } =
      (.ok (fetchedInOrder m), (fetchInOrder m).2) := by
  have hasked : Text.sort (m.typeNames.filter selection.includes) = Assoc.keys m.schemas := by
    have hsame : Text.sort (Assoc.keys m.schemas) = Assoc.keys m.schemas :=
      List.mergeSort_of_pairwise hnames
    rw [InMemory.typeNames, hlisted, hsame, hincluded, hsame]
  have hsorted : Descriptions.types (m.client.describeAll (Assoc.keys m.schemas) 10
      { state := 0 }).1 = recordTypes m := by
    rw [hdescribed, Descriptions.types, List.filterMap_map]
    change Text.sortBy (fun t => t.id.typeName)
      (m.schemas.filterMap fun e => some (e.2.toObjectType customObject)) = recordTypes m
    rw [List.filterMap_eq_map']
    exact List.mergeSort_of_pairwise htypes
  have hwarnings : Descriptions.warnings (m.client.describeAll (Assoc.keys m.schemas) 10
      { state := 0 }).1 = [] := by
    rw [hdescribed, Descriptions.warnings, List.filterMap_map]
    exact List.filterMap_eq_nil_iff.2 fun _ _ => rfl
  have hrun : fetchInOrder m = (.ok (fetchedInOrder m), (fetchInOrder m).2) := by
    rw [fetchedInOrder]
    generalize fetchInOrder m = run at hok ⊢
    rcases run with ⟨_ | _, _⟩
    · cases hok
    · rfl
  rw [FetchProfile.fetchRecords_of_listTypes _ _ hselection rfl, hasked]
  exact (FetchProfile.fetchDescribed_of_types _ _ hsorted hrun).trans (by rw [hwarnings]; rfl)

def tierSystem : InMemory where
  schemas :=
    [("InstalledPackage", { name := "InstalledPackage", fields := [] }),
     ("sbaa__ApprovalCondition__c", { name := "sbaa__ApprovalCondition__c", fields :=
        [{ name := "sbaa__ApprovalRule__c", type := "reference",
           referenceTo := ["sbaa__ApprovalRule__c"] }] }),
     ("sbaa__ApprovalRule__c", { name := "sbaa__ApprovalRule__c", fields := [] })]
  records :=
    [("InstalledPackage",
        [[("Id", .string "033a"), ("Name", .string "sbaa"), ("fullName", .string "sbaa")]]),
     ("sbaa__ApprovalCondition__c",
        [[("Id", .string "a0Cb"), ("Name", .string "Tier_1"),
          ("sbaa__ApprovalRule__c", .string "a0Ca"), ("sbaa__Index__c", .int 1)]]),
     ("sbaa__ApprovalRule__c",
        [[("Id", .string "a0Ca"), ("Name", .string "Tier"),
          ("sbaa__AdvancedCondition__c", .string "1")]])]

theorem fetchRecords_tier :
    everything.profile.fetchRecords tierSystem.client 10 { state := 0 } =
      (.ok (fetchedInOrder tierSystem), (fetchInOrder tierSystem).2) :=
  fetchRecords_everything rfl (by decide +kernel) (by decide +kernel) rfl (by decide +kernel)
    (by decide +kernel) (by decide +kernel)

/-- The types refer to the package, and the rule and its condition to each other. -/
theorem fetch_references_resolve_tier :
    ∃ fetched, ((everything.withSaved 10 [] []).fetch tierSystem.client { state := 0 }).1 =
        .ok fetched ∧
      (fetched.elements.flatMap fun e => e.references.map (·.target.name)) =
        ["sbaa", "Tier", "sbaa", "Tier_1"] ∧
      ∃ g, ElementGraph.ofElements fetched.elements = .ok g ∧
        ∀ e ∈ fetched.elements, ∀ r ∈ e.references,
          ∃ d, g.resolve r.target = some d ∧ d.id = r.target := by
  have hnodup : ((everything.refined tierSystem.client 10 (fetchedInOrder tierSystem).elements
      (fetchInOrder tierSystem).2).map Element.id).Nodup := by
    decide +kernel
  obtain ⟨warnings, hfetch⟩ :=
    everything.fetch_of_nodup tierSystem.client 10 [] [] fetchRecords_tier hnodup
  have htargets : ((everything.refined tierSystem.client 10 (fetchedInOrder tierSystem).elements
      (fetchInOrder tierSystem).2).flatMap fun e => e.references.map (·.target.name)) =
        ["sbaa", "Tier", "sbaa", "Tier_1"] := by
    decide +kernel
  have hnames : (fetchedInOrder tierSystem).elements.all fun e => e.objectType?.all fun t =>
      t.id.typeName ≠ Labels.containerType ∧ t.id.typeName ≠ ChangeTimes.singletonType := by
    decide +kernel
  have htypes : ∀ data s₁, everything.profile.fetchRecords tierSystem.client
      everything.config.client.maxDescribes { state := 0 } = (.ok data, s₁) →
      ∀ t, .objectType t ∈ data.elements → t.id.typeName ≠ Labels.containerType ∧
        t.id.typeName ≠ ChangeTimes.singletonType := by
    intro data s₁ hrecords t ht
    cases fetchRecords_tier.symm.trans hrecords
    simpa [Element.objectType?] using List.all_eq_true.1 hnames _ ht
  obtain ⟨-, g, hg, hresolve⟩ :=
    everything.fetch_references_resolve tierSystem.client 10 [] [] htypes nofun hfetch
  exact ⟨_, hfetch, htargets, g, hg, fun e he r hr => (hresolve e he r hr).1⟩

end Adapter

end ElementSync
