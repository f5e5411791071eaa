import ElementSync.Proofs.Adapter.FetchedReferences
import ElementSync.Proofs.Fetch.Ids
import ElementSync.Proofs.Fetch.SplitLabels

/-!
# When a fetch finds an id twice

The ids of a fetch are those of what the client brought in, of the tooling types and of the split
labels. A client that tells its types and records apart keeps the first from clashing with
themselves, but not with the others, which are chosen on their own.
-/

namespace ElementSync

/-- Where the ids of a type are distinct, a repeated id is one of the others. -/
theorem Element.nodup_ids_filter_ne {es : List Element} {name : String}
    (h : ((es.map Element.id).filter (·.typeName = name)).Nodup) :
    ((es.filter (·.id.typeName ≠ name)).map Element.id).Nodup ↔ (es.map Element.id).Nodup := by
  let same := es.filter (·.id.typeName = name)
  let others := es.filter (·.id.typeName ≠ name)
  have hperm : (same ++ others).Perm es := by
    simpa [same, others] using List.filter_append_perm (·.id.typeName = name) es
  have hsame : (same.map Element.id).Nodup := by
    rw [List.filter_map] at h
    exact h
  have hdisjoint : ∀ e ∈ others, e.id ∉ same.map Element.id := by
    intro e he hmem
    obtain ⟨d, hd, hid⟩ := List.mem_map.1 hmem
    have hname : d.id.typeName = name := by simpa using (List.mem_filter.1 hd).2
    have hother : e.id.typeName ≠ name := by simpa using (List.mem_filter.1 he).2
    exact hother (hid ▸ hname)
  rw [← (hperm.map _).nodup_iff, Element.nodup_ids_append]
  exact ⟨fun h => ⟨hsame, h, hdisjoint⟩, fun h => h.2.1⟩

/-- The instance and its type take the place of whatever has their type. -/
theorem ChangeTimes.nodup_update_iff (source : ElementSource) {es : List Element}
    (h : ((es.map Element.id).filter (·.typeName = singletonType)).Nodup) :
    ((update source es).map Element.id).Nodup ↔ (es.map Element.id).Nodup := by
  rcases update_cases source es with hsame | ⟨times, -, hupdate⟩
  · rw [hsame]
  let own : List Element := [.objectType type, .inst (singleton times)]
  let others := es.filter (·.id.typeName ≠ singletonType)
  have hown : (own.map Element.id).Nodup := by
    change [ElementId.type salesforce singletonType, singletonId].Nodup
    decide
  have hnew : ∀ e ∈ own, e.id ∉ others.map Element.id := by
    intro e he hmem
    obtain ⟨d, hd, hid⟩ := List.mem_map.1 hmem
    have hother : d.id.typeName ≠ singletonType := by simpa using (List.mem_filter.1 hd).2
    refine hother ?_
    rw [hid]
    simp only [own, List.mem_cons, List.not_mem_nil, or_false] at he
    rcases he with rfl | rfl <;> rfl
  rw [hupdate, ← Element.nodup_ids_filter_ne h, Element.nodup_ids_append]
  exact ⟨fun h => h.1, fun h => ⟨h, hown, hnew⟩⟩

namespace FilterContext
variable (context : FilterContext) (es : List Element)

/-- What the filters before the split make of an instance. -/
def rewrite : Instance Element → Instance Element :=
  (if context.profile.isFeatureEnabled ConditionLogic.feature then
    ConditionLogic.unpackInstance (RecordReferences.link es)
  else id) ∘ RecordReferences.linkInstance (RecordReferences.records es)

theorem unpackLogic_link :
    context.unpackLogic (RecordReferences.link es) = es.map (Element.mapInst (context.rewrite es)) := by
  have hlink : RecordReferences.link es = es.map (Element.mapInst
      (RecordReferences.linkInstance (RecordReferences.records es))) := by
    rw [RecordReferences.link, RecordReferences.linkElement_eq]
  have hcomp : ∀ g g' : Instance Element → Instance Element,
      Element.mapInst g' ∘ Element.mapInst g = Element.mapInst (g' ∘ g) := by
    intro g g'
    funext e
    cases e <;> rfl
  rw [unpackLogic, rewrite]
  split
  · rw [ConditionLogic.unpackAll, ConditionLogic.unpackElement_eq, ← hcomp, ← List.map_map, ← hlink]
  · exact hlink

theorem keeps_rewrite : Labels.Keeps (context.rewrite es) := by
  rw [rewrite]
  split
  · exact (Labels.keeps_unpackInstance _).comp (Labels.keeps_linkInstance es)
  · exact Labels.keeps_linkInstance es

variable {es} in
/-- Only the split of the labels matters for the ids. -/
theorem nodup_refine_iff
    (h : ((es.map Element.id).filter (·.typeName = ChangeTimes.singletonType)).Nodup) :
    ((context.refine es).map Element.id).Nodup ↔ ((Labels.split es).map Element.id).Nodup := by
  have hids : (IssueTypes.flatten (PackageDependencies.link
      (Labels.split (context.unpackLogic (RecordReferences.link es))))).map Element.id =
      (Labels.split es).map Element.id := by
    rw [IssueTypes.map_id_flatten, PackageDependencies.map_id_link, unpackLogic_link,
      (context.keeps_rewrite es).map_id_split]
  rw [refine, ChangeTimes.nodup_update_iff, hids]
  rw [hids]
  exact h.sublist (Labels.filter_ids_split_sublist (by decide))

end FilterContext

namespace Adapter
variable {σ : Type} (a : Adapter) {client : Client σ} (maxDescribes : Nat)
  (templates : ConditionLogic.SavedByType) (labels : List (Change Element)) {s : Session σ}

theorem nodup_refined_iff (hclient : client.IsOrderly) {es : List Element}
    (hfetch : client.IsFetch es) :
    ((a.refined client maxDescribes es s).map Element.id).Nodup ↔
      (∀ e ∈ (a.profile.fetchTooling client maxDescribes s).1.elements,
        e.id ∉ es.map Element.id) ∧ ¬ Labels.Clash es := by
  let tooling := (a.profile.fetchTooling client maxDescribes s).1.elements
  have hname : ∀ e ∈ tooling, ∃ name ∈ ToolingTypes.typeNames, e.id = .type salesforce name :=
    fun e he => a.profile.id_of_mem_fetchTooling hclient maxDescribes s he
  have hforeign : ∀ e ∈ tooling, e.id.typeName ≠ ChangeTimes.singletonType ∧
      e.id.typeName ≠ Labels.labelType := by
    intro e he
    obtain ⟨name, hmem, hid⟩ := hname e he
    have hnames : ∀ name ∈ ToolingTypes.typeNames,
        name ≠ ChangeTimes.singletonType ∧ name ≠ Labels.labelType := by
      decide
    rw [hid]
    exact hnames name hmem
  have hsingle : (((es ++ tooling).map Element.id).filter
      (·.typeName = ChangeTimes.singletonType)).Nodup := by
    have hnone : (tooling.map Element.id).filter (·.typeName = ChangeTimes.singletonType) = [] := by
      refine List.filter_eq_nil_iff.2 fun id hid => ?_
      obtain ⟨e, he, rfl⟩ := List.mem_map.1 hid
      simpa using (hforeign e he).1
    rw [List.map_append, List.filter_append, hnone, List.append_nil]
    exact (hfetch.nodup hclient).filter _
  rw [refined, a.context.nodup_refine_iff hsingle]
  refine Labels.nodup_split_iff (hfetch.nodup hclient)
    (a.profile.nodup_fetchTooling hclient maxDescribes s) ?_ ?_ fun e he => (hforeign e he).2
  · intro e he
    obtain ⟨name, -, hid⟩ := hname e he
    rw [hid]
    rfl
  · intro e he
    obtain ⟨schema, rfl⟩ := FetchProfile.exists_of_mem_fetchTooling he
    rfl

/-- With a client that tells its types and records apart, a fetch finds an id twice exactly when a
tooling type was fetched as a type of records, too, or labels clash. -/
theorem fetch_duplicate_iff (hclient : client.IsOrderly) :
    (∃ id, ((a.withSaved maxDescribes templates labels).fetch client s).1 =
        .error (.element (.duplicate id))) ↔
      ∃ data s₁, a.profile.fetchRecords client a.config.client.maxDescribes s = (.ok data, s₁) ∧
        ((∃ e ∈ (a.profile.fetchTooling client maxDescribes s₁).1.elements,
            e.id ∈ data.elements.map Element.id) ∨
          Labels.Clash data.elements) := by
  rw [exists_duplicate_iff]
  refine exists₂_congr fun data s₁ => and_congr_right fun hrecords => ?_
  have hbrings := a.profile.fetchRecords_brings client a.config.client.maxDescribes s
  rw [hrecords] at hbrings
  rw [a.nodup_refined_iff maxDescribes hclient hbrings]
  simp only [not_and_or, not_forall, not_not, exists_prop]

theorem isOrderly_tier : tierSystem.client.IsOrderly :=
  InMemory.isOrderly (by decide +kernel) (by decide +kernel)

/-- Neither tooling types nor labels are there. -/
theorem fetch_duplicate_iff_tier :
    tierSystem.client.IsOrderly ∧
      ¬ ∃ id, ((everything.withSaved 10 [] []).fetch tierSystem.client { state := 0 }).1 =
        .error (.element (.duplicate id)) := by
  refine ⟨isOrderly_tier, ?_⟩
  rw [everything.fetch_duplicate_iff 10 [] [] isOrderly_tier]
  rintro ⟨data, s₁, hrecords, hclash⟩
  cases fetchRecords_tier.symm.trans hrecords
  rcases hclash with ⟨e, he, -⟩ | ⟨container, -, hcontainer, -⟩
  · have hnone : (everything.profile.fetchTooling tierSystem.client 10
        (fetchInOrder tierSystem).2).1.elements.isEmpty := by
      decide +kernel
    rw [List.isEmpty_iff.1 hnone] at he
    cases he
  · have hnone : (Labels.container? (fetchedInOrder tierSystem).elements).isNone := by
      decide +kernel
    rw [Option.isNone_iff_eq_none.1 hnone] at hcontainer
    cases hcontainer

def packageSystem : InMemory where
  schemas :=
    [("InstalledSubscriberPackage", { name := "InstalledSubscriberPackage", fields := [] }),
     ("SubscriberPackage", { name := "SubscriberPackage", fields := [] })]

/-- The system tells its types apart and has no records, and a fetch of everything finds an id
twice. -/
theorem fetch_duplicate_package :
    packageSystem.client.IsOrderly ∧
      (∀ text n, (packageSystem.client.query text n).1.records = []) ∧
      ∃ id, (everything.fetch packageSystem.client { state := 0 }).1 =
        .error (.element (.duplicate id)) := by
  have hclient : packageSystem.client.IsOrderly :=
    InMemory.isOrderly (by decide +kernel) (by decide +kernel)
  have hrecords := fetchRecords_everything (m := packageSystem) rfl (by decide +kernel)
    (by decide +kernel) rfl (by decide +kernel) (by decide +kernel) (by decide +kernel)
  refine ⟨hclient, fun _ _ => rfl,
    everything.fetch_of_not_nodup packageSystem.client 10 [] [] hrecords ?_⟩
  have hbrings := everything.profile.fetchRecords_brings packageSystem.client 10 { state := 0 }
  rw [hrecords] at hbrings
  rw [everything.nodup_refined_iff 10 hclient hbrings]
  rintro ⟨hnew, -⟩
  have htooling : (everything.profile.fetchTooling packageSystem.client 10
      (fetchInOrder packageSystem).2).1.elements =
        (Text.sortBy (fun t => t.id.typeName) (ToolingTypes.typeNames.map fun name =>
          TypeSchema.toObjectType { name, fields := [] } ToolingTypes.metadataType)).map
            .objectType := rfl
  rw [htooling] at hnew
  refine hnew _ (List.mem_map_of_mem (Text.mem_sortBy.2 List.mem_cons_self)) ?_
  decide +kernel

end Adapter

end ElementSync
