import ElementSync.Client.InMemory
import ElementSync.Proofs.Fetch.Records
import Mathlib.Data.List.Nodup

/-!
# Distinct ids in what a client brings

A client that lists no type twice, describes each under the name it was asked for and has no two
records of one name brings in elements with distinct ids: the selected types, their records, and
the tooling types.
-/

namespace ElementSync

/-- A client that names types and records so that they can be told apart. -/
structure Client.IsOrderly {σ : Type} (client : Client σ) : Prop where
  listed : ∀ state names, (client.listTypes state).1 = .ok names → names.Nodup
  described : ∀ name state schema,
    (client.describe name state).1 = .ok schema → schema.name = name
  named : ∀ (t : ObjectType Element) state,
    ((client.query t.query state).1.records.map Record.plainName).Nodup

/-! ### Records -/

namespace Record

/-- No identifier is needed to tell records of distinct names apart. -/
theorem elementNames_eq {taken : List String} {rs : List Record}
    (h : (taken ++ rs.map plainName).Nodup) : elementNames taken rs = rs.map plainName := by
  -- the names given so far are distinct from those to come, which is what moves along the list
  induction rs generalizing taken with
  | nil => rfl
  | cons r rs ih =>
    have hnew : plainName r ∉ taken := fun hold =>
      (List.nodup_append.1 h).2.2 _ hold _ List.mem_cons_self rfl
    have hname : elementName taken r = plainName r := by simp [elementName, hnew]
    have hrest : (plainName r :: taken ++ rs.map plainName).Nodup := by
      rw [List.map_cons, List.nodup_middle] at h
      exact h
    rw [elementNames, hname, ih hrest, List.map_cons]

theorem map_id_instances (t : ObjectType Element) {rs : List Record}
    (h : (rs.map plainName).Nodup) :
    ((List.zipWith (toInstance t) rs (elementNames [] rs)).map fun i => i.id) =
      rs.map fun r => .inst t.id.adapter t.id.typeName (plainName r) := by
  rw [elementNames_eq (by simpa using h), List.zipWith_map_right, List.zipWith_self, List.map_map]
  rfl

end Record

/-! ### Types with their records -/

namespace Client
variable {σ : Type} {client : Client σ}

theorem IsFetchOf.typeName_eq {t : ObjectType Element} {part : List Element}
    (h : client.IsFetchOf t part) {e : Element} (he : e ∈ part) :
    e.id.typeName = t.id.typeName := by
  rcases h.mem he with rfl | ⟨r, name, rfl⟩ <;> rfl

theorem IsFetchOf.nodup (hclient : client.IsOrderly) {t : ObjectType Element}
    (ht : t.id.kind = .type) {part : List Element} (h : client.IsFetchOf t part) :
    (part.map Element.id).Nodup := by
  cases h with
  | alone => exact List.nodup_singleton _
  | withRecords records answered =>
    obtain ⟨state, rfl⟩ := answered
    have hnames := hclient.named t state
    have hids := Record.map_id_instances t hnames
    have hnodup : ((client.query t.query state).1.records.map fun r =>
        ElementId.inst t.id.adapter t.id.typeName r.plainName).Nodup := by
      have hinj : Function.Injective (ElementId.inst t.id.adapter t.id.typeName) := by
        intro a b hab
        simpa [ElementId.inst] using hab
      simpa only [List.map_map, Function.comp_def] using hnames.map hinj
    rw [List.map_cons, List.map_map]
    change (t.id :: List.map (fun i : Instance Element => i.id) _).Nodup
    rw [hids]
    refine List.nodup_cons.2 ⟨fun hmem => ?_, hnodup⟩
    obtain ⟨r, -, hid⟩ := List.mem_map.1 hmem
    rw [← hid] at ht
    cases ht

/-- Elements of different types have different ids. -/
theorem nodup_flatten (hclient : client.IsOrderly) {ts : List (ObjectType Element)}
    {parts : List (List Element)} (h : List.Forall₂ client.IsFetchOf ts parts)
    (hkind : ∀ t ∈ ts, t.id.kind = .type) (hts : (ts.map (·.id.typeName)).Nodup) :
    (parts.flatten.map Element.id).Nodup := by
  induction h with
  | nil => exact List.nodup_nil
  | @cons t part ts parts hfirst hrest ih =>
    rw [List.map_cons, List.nodup_cons] at hts
    rw [List.flatten_cons, List.map_append]
    refine List.nodup_append.2 ⟨hfirst.nodup hclient (hkind t List.mem_cons_self),
      ih (fun t ht => hkind t (List.mem_cons_of_mem _ ht)) hts.2, ?_⟩
    -- an id tells the type of its part, and no later part is of this type
    intro id hid id' hid' heq
    obtain ⟨e, he, rfl⟩ := List.mem_map.1 hid
    obtain ⟨e', he', rfl⟩ := List.mem_map.1 hid'
    obtain ⟨part', hpart', he'⟩ := List.mem_flatten.1 he'
    obtain ⟨t', ht', hfetch⟩ := exists_of_mem_parts hrest hpart'
    refine hts.1 (List.mem_map.2 ⟨t', ht', ?_⟩)
    rw [← hfetch.typeName_eq he', ← heq, hfirst.typeName_eq he]

theorem Describes.typeName_eq (hclient : client.IsOrderly) {ds : Descriptions}
    (h : client.Describes ds) {name : String} {schema : TypeSchema}
    (hd : (name, .ok schema) ∈ ds) : schema.name = name := by
  obtain ⟨state, hstate⟩ := h _ hd
  exact hclient.described name state schema hstate

theorem Describes.sublist (hclient : client.IsOrderly) {ds : Descriptions}
    (h : client.Describes ds) :
    ((ds.filterMap fun (_, d) => d.toOption.map (·.toObjectType customObject)).map
      (·.id.typeName)).Sublist (ds.map Prod.fst) := by
  induction ds with
  | nil => exact .slnil
  | cons d ds ih =>
    have hrest := ih fun d hd => h d (List.mem_cons_of_mem _ hd)
    obtain ⟨name, d⟩ := d
    cases d with
    | error e => exact .cons _ hrest
    | ok schema =>
      have hname : schema.name = name := h.typeName_eq hclient List.mem_cons_self
      have hid : (schema.toObjectType customObject).id.typeName = name := by
        rw [TypeSchema.id_toObjectType, ← hname]
        rfl
      change ((schema.toObjectType customObject).id.typeName :: _).Sublist (name :: _)
      rw [hid]
      exact .cons_cons _ hrest

theorem Describes.nodup_types (hclient : client.IsOrderly) {ds : Descriptions}
    (h : client.Describes ds) (hnames : (ds.map Prod.fst).Nodup) :
    (ds.types.map (·.id.typeName)).Nodup :=
  ((Text.sortBy_perm _ _).map _).nodup_iff.2 (hnames.sublist (h.sublist hclient))

theorem IsFetch.nodup (hclient : client.IsOrderly) {es : List Element} (h : client.IsFetch es) :
    (es.map Element.id).Nodup := by
  obtain ⟨ds, parts, hdescribes, hnames, hparts, rfl⟩ := h
  refine nodup_flatten hclient hparts ?_ (hdescribes.nodup_types hclient (hnames hclient.listed))
  intro t ht
  obtain ⟨name, schema, -, rfl⟩ := Descriptions.mem_types.1 ht
  rw [TypeSchema.id_toObjectType]
  rfl

end Client

/-! ### Tooling types -/

namespace FetchProfile
variable {σ : Type} {client : Client σ} (hclient : client.IsOrderly) (p : FetchProfile)
  (maxDescribes : Nat) (s : Session σ)

include hclient

theorem ids_fetchTooling :
    (p.fetchTooling client maxDescribes s).1.elements = [] ∨
      ((p.fetchTooling client maxDescribes s).1.elements.map Element.id).Perm
        (ToolingTypes.typeNames.map (ElementId.type salesforce)) := by
  rcases p.elements_fetchTooling client maxDescribes s with
    hnone | ⟨ds, schemas, hnames, hdescribes, hschemas, hperm⟩
  · exact .inl hnone
  · have hids : schemas.map TypeSchema.name = ds.map Prod.fst := by
      clear hnames hperm
      induction hschemas with
      | nil => rfl
      | @cons d schema ds schemas hd _ ih =>
        have hname : schema.name = d.1 :=
          hdescribes.typeName_eq hclient (List.mem_cons.2 (.inl (Prod.ext rfl hd.symm)))
        rw [List.map_cons, List.map_cons, hname, ih fun d hd => hdescribes d (.tail _ hd)]
    refine .inr ((hperm.map _).trans (.of_eq ?_))
    rw [← hnames, ← hids, List.map_map, List.map_map]
    exact List.map_congr_left fun schema _ => schema.id_toObjectType _

theorem nodup_fetchTooling :
    ((p.fetchTooling client maxDescribes s).1.elements.map Element.id).Nodup := by
  rcases p.ids_fetchTooling hclient maxDescribes s with hnone | hperm
  · rw [hnone]
    exact List.nodup_nil
  · rw [hperm.nodup_iff]
    decide

theorem id_of_mem_fetchTooling {e : Element}
    (he : e ∈ (p.fetchTooling client maxDescribes s).1.elements) :
    ∃ name ∈ ToolingTypes.typeNames, e.id = .type salesforce name := by
  rcases p.ids_fetchTooling hclient maxDescribes s with hnone | hperm
  · rw [hnone] at he
    cases he
  · obtain ⟨name, hname, hid⟩ := List.mem_map.1 (hperm.mem_iff.1 (List.mem_map_of_mem he))
    exact ⟨name, hname, hid.symm⟩

end FetchProfile

/-! ### Systems in memory -/

namespace InMemory

theorem nodup_eraseDups (names : List String) : names.eraseDups.Nodup := by
  cases names with
  | nil => exact List.nodup_nil
  | cons name names =>
    rw [List.eraseDups_cons, List.nodup_cons]
    exact ⟨by simp [List.mem_eraseDups], nodup_eraseDups _⟩
termination_by names.length
decreasing_by exact Nat.lt_succ_of_le (List.length_filter_le _ _)

theorem isOrderly {m : InMemory} (hschemas : ∀ e ∈ m.schemas, e.2.name = e.1)
    (hrecords : ∀ e ∈ m.records, (e.2.map Record.plainName).Nodup) : m.client.IsOrderly where
  listed := by
    rintro state names ⟨⟩
    exact (Text.sort_perm _).nodup_iff.2 (nodup_eraseDups _)
  described := by
    intro name state schema h
    change m.describe name = .ok schema at h
    rw [describe] at h
    split at h
    · cases h
    · split at h
      next schema' hlookup =>
        cases h
        exact hschemas (name, schema) (Assoc.mem_of_lookup hlookup)
      · cases h
  named := by
    intro t state
    change (((m.records.lookup (queriedType t.query)).getD []).map Record.plainName).Nodup
    cases hlookup : m.records.lookup (queriedType t.query) with
    | none => exact List.nodup_nil
    | some rs =>
      exact hrecords (queriedType t.query, rs) (Assoc.mem_of_lookup hlookup)

end InMemory

end ElementSync
