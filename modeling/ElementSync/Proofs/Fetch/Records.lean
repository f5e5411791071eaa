import ElementSync.Fetch.ToolingTypes
import Mathlib.Data.List.Forall2

/-!
# What a fetch brings in

Whatever the client answers, the records of a fetch come type by type, each type with its records
or, when it is passed over, alone. Of tooling types nothing comes but the types. Only an error of
the client ends a fetch of records.
-/

namespace ElementSync

theorem Text.mem_sortBy {α : Type} {key : α → String} {xs : List α} {x : α} :
    x ∈ sortBy key xs ↔ x ∈ xs :=
  (List.mergeSort_perm xs _).mem_iff

theorem Text.sortBy_perm {α : Type} (key : α → String) (xs : List α) : (sortBy key xs).Perm xs :=
  List.mergeSort_perm xs _

theorem Text.sort_perm (xs : List String) : (sort xs).Perm xs := List.mergeSort_perm xs _

/-! ### Types from descriptions -/

namespace ObjectType

theorem mem_addField {t : ObjectType Element} {f g : Field Element}
    (h : g ∈ (t.addField f).fields) : g = f ∨ g ∈ t.fields := by
  have hgo : ∀ fs : List (Field Element), g ∈ addField.go f fs → g = f ∨ g ∈ fs := by
    intro fs
    induction fs with
    | nil => exact fun h => .inl (List.mem_singleton.1 h)
    | cons d ds ih =>
      intro h
      rw [addField.go] at h
      split at h
      · exact (List.mem_cons.1 h).imp_right (List.mem_cons_of_mem d)
      · rcases List.mem_cons.1 h with rfl | h
        · exact .inr List.mem_cons_self
        · exact (ih h).imp_right (List.mem_cons_of_mem d)
  exact hgo t.fields h

theorem mem_foldl_addField {fs : List (Field Element)} {t : ObjectType Element}
    {g : Field Element} (h : g ∈ (fs.foldl addField t).fields) : g ∈ fs ∨ g ∈ t.fields := by
  induction fs generalizing t with
  | nil => exact .inr h
  | cons f fs ih =>
    rcases ih h with h | h
    · exact .inl (List.mem_cons_of_mem f h)
    · rcases mem_addField h with rfl | h
      · exact .inl List.mem_cons_self
      · exact .inr h

/-- Adding fields changes nothing else. -/
theorem foldl_addField_eq (fs : List (Field Element)) (t : ObjectType Element) :
    fs.foldl addField t = { t with fields := (fs.foldl addField t).fields } := by
  induction fs generalizing t with
  | nil => rfl
  | cons f fs ih =>
    rw [List.foldl_cons, ih]
    rfl

end ObjectType

namespace TypeSchema
variable (t : TypeSchema) (metadataType : String)

theorem id_toObjectType : (t.toObjectType metadataType).id = .type salesforce t.name := by
  rw [toObjectType, ObjectType.foldl_addField_eq]

theorem annotations_toObjectType : (t.toObjectType metadataType).annotations =
    [(AnnotationKey.apiName, .text t.name),
      (AnnotationKey.metadataType, .text metadataType)] := by
  rw [toObjectType, ObjectType.foldl_addField_eq]

variable {t metadataType}

theorem exists_of_mem_fields {f : Field Element} (h : f ∈ (t.toObjectType metadataType).fields) :
    ∃ schema, f = FieldSchema.toField (.type salesforce t.name) schema := by
  rcases ObjectType.mem_foldl_addField h with h | h
  · obtain ⟨schema, -, rfl⟩ := List.mem_map.1 h
    exact ⟨schema, rfl⟩
  · cases h

end TypeSchema

@[simp] theorem Descriptions.types_nil : types [] = [] := by
  simp [types, Text.sortBy]

theorem Descriptions.mem_types {ds : Descriptions} {t : ObjectType Element} :
    t ∈ ds.types ↔ ∃ name schema, (name, .ok schema) ∈ ds ∧
      t = schema.toObjectType customObject := by
  rw [types, Text.mem_sortBy, List.mem_filterMap]
  constructor
  · rintro ⟨⟨name, d⟩, hd, ht⟩
    cases d with
    | error e => cases ht
    | ok schema =>
      cases ht
      exact ⟨name, schema, hd, rfl⟩
  · rintro ⟨name, schema, hd, rfl⟩
    exact ⟨_, hd, rfl⟩

/-! ### Runs against a client -/

namespace Client
variable {σ : Type} (client : Client σ)

def Describes (ds : Descriptions) : Prop :=
  ∀ d ∈ ds, ∃ state, (client.describe d.1 state).1 = d.2

def describeNamed (name : String) : Wire σ (String × Except ClientError TypeSchema) := do
  Wire.note fun t => { t with describes := t.describes ++ [name] }
  return (name, ← Wire.call (client.describe name))

theorem mapM_describeNamed (names : List String) (s : Session σ) :
    (names.mapM client.describeNamed s).1.map Prod.fst = names ∧
      client.Describes (names.mapM client.describeNamed s).1 := by
  induction names generalizing s with
  | nil => exact ⟨rfl, nofun⟩
  | cons name names ih =>
    rw [List.mapM_cons]
    obtain ⟨hnames, hrest⟩ := ih (client.describeNamed name s).2
    refine ⟨congrArg (name :: ·) hnames, ?_⟩
    intro d hd
    rcases List.mem_cons.1 hd with rfl | hd
    · exact ⟨_, rfl⟩
    · exact hrest d hd

theorem describeAll_describes (names : List String) (limit : Nat) (s : Session σ) :
    (client.describeAll names limit s).1.map Prod.fst = names ∧
      client.Describes (client.describeAll names limit s).1 :=
  client.mapM_describeNamed names _

inductive IsFetchOf (t : ObjectType Element) : List Element → Prop
  | alone : IsFetchOf t [.objectType t]
  | withRecords (records : List Record)
      (answered : ∃ state, (client.query t.query state).1.records = records) :
      IsFetchOf t (.objectType t ::
        (List.zipWith (Record.toInstance t) records (Record.elementNames [] records)).map .inst)

def IsFetch (es : List Element) : Prop :=
  ∃ ds parts, client.Describes ds ∧
    ((∀ state names, (client.listTypes state).1 = .ok names → names.Nodup) →
      (ds.map Prod.fst).Nodup) ∧
    List.Forall₂ client.IsFetchOf (Descriptions.types ds) parts ∧ es = parts.flatten

variable {client}

theorem IsFetchOf.mem {t : ObjectType Element} {part : List Element}
    (h : client.IsFetchOf t part) {e : Element} (he : e ∈ part) :
    e = .objectType t ∨ ∃ r name, e = .inst (Record.toInstance t r name) := by
  cases h with
  | alone => exact .inl (List.mem_singleton.1 he)
  | withRecords records answered =>
    rcases List.mem_cons.1 he with rfl | he
    · exact .inl rfl
    · obtain ⟨i, hi, rfl⟩ := List.mem_map.1 he
      rw [← List.map_uncurry_zip_eq_zipWith] at hi
      obtain ⟨⟨r, name⟩, -, rfl⟩ := List.mem_map.1 hi
      exact .inr ⟨r, name, rfl⟩

theorem exists_of_mem_parts {ts : List (ObjectType Element)} {parts : List (List Element)}
    (h : List.Forall₂ client.IsFetchOf ts parts) {part : List Element} (hpart : part ∈ parts) :
    ∃ t ∈ ts, client.IsFetchOf t part := by
  induction h with
  | nil => cases hpart
  | cons hfirst _ ih =>
    rcases List.mem_cons.1 hpart with rfl | hpart
    · exact ⟨_, List.mem_cons_self, hfirst⟩
    · obtain ⟨t, ht, hfetch⟩ := ih hpart
      exact ⟨t, List.mem_cons_of_mem _ ht, hfetch⟩

/-- Whatever comes is a type, or a record of a type that comes with it. -/
theorem IsFetch.mem {es : List Element} (h : client.IsFetch es) {e : Element} (he : e ∈ es) :
    ∃ schema : TypeSchema, .objectType (schema.toObjectType customObject) ∈ es ∧
      (e = .objectType (schema.toObjectType customObject) ∨
        ∃ r name, e = .inst (Record.toInstance (schema.toObjectType customObject) r name)) := by
  obtain ⟨ds, parts, -, -, hparts, rfl⟩ := h
  obtain ⟨part, hpart, he⟩ := List.mem_flatten.1 he
  obtain ⟨t, ht, hfetch⟩ := exists_of_mem_parts hparts hpart
  obtain ⟨name, schema, -, rfl⟩ := Descriptions.mem_types.1 ht
  have htype : .objectType (schema.toObjectType customObject) ∈ part := by
    cases hfetch <;> exact List.mem_cons_self
  exact ⟨schema, List.mem_flatten.2 ⟨part, hpart, htype⟩, hfetch.mem he⟩

end Client

/-- A fetch ends with elements of this sort, or with an error of the client. -/
def Fetched.Brings (p : List Element → Prop) : Except Failure Fetched → Prop
  | .ok fetched => p fetched.elements
  | .error e => ∃ c, e = .client c

theorem Fetched.Brings.mono {p q : List Element → Prop} {answer : Except Failure Fetched}
    (h : Brings p answer) (hpq : ∀ es, p es → q es) : Brings q answer := by
  cases answer with
  | error e => exact h
  | ok fetched => exact hpq _ h

theorem RecordStream.eq_of_instances?_eq_ok {t : ObjectType Element} {most : Nat}
    {stream : RecordStream} {answer : Option (List (Instance Element))}
    (h : stream.instances? t most = .ok answer) :
    answer = none ∨ answer = some
      (List.zipWith (Record.toInstance t) stream.records
        (Record.elementNames [] stream.records)) := by
  rw [instances?] at h
  split at h
  · cases h
    exact .inl rfl
  · split at h
    · cases h
    · cases h
      exact .inr rfl

namespace FetchProfile
variable {σ : Type} (p : FetchProfile) (client : Client σ)

theorem fetchType_brings (t : ObjectType Element) (s : Session σ) :
    Fetched.Brings (client.IsFetchOf t) (p.fetchType client t s).1 := by
  have hquery : client.sendQuery t.query s = ((client.query t.query s.state).1, _) := rfl
  simp only [fetchType, bind, StateT.bind, hquery]
  cases hanswer : (client.query t.query s.state).1.instances? t p.maxInstances with
  | error e => exact ⟨e, rfl⟩
  | ok answer =>
    rcases RecordStream.eq_of_instances?_eq_ok hanswer with rfl | rfl
    · exact .alone
    · exact .withRecords _ ⟨s.state, rfl⟩

theorem fetchTypes_brings (ts : List (ObjectType Element)) (s : Session σ) :
    Fetched.Brings (fun es => ∃ parts, List.Forall₂ client.IsFetchOf ts parts ∧
      es = parts.flatten) (p.fetchTypes client ts s).1 := by
  induction ts generalizing s with
  | nil => exact ⟨[], .nil, rfl⟩
  | cons t ts ih =>
    have hfirst := p.fetchType_brings client t s
    simp only [fetchTypes, bind, StateT.bind]
    generalize p.fetchType client t s = run at hfirst ⊢
    rcases run with ⟨_ | first, s₁⟩
    · exact hfirst
    · have hrest := ih s₁
      change Fetched.Brings _ ((p.fetchTypes client ts s₁).1.map first.append)
      generalize (p.fetchTypes client ts s₁).1 = answer at hrest ⊢
      cases answer with
      | error e => exact hrest
      | ok rest =>
        obtain ⟨parts, hparts, hflatten⟩ := hrest
        exact ⟨first.elements :: parts, .cons hfirst hparts,
          congrArg (first.elements ++ ·) hflatten⟩

/-- A fetch of the listed types that are selected. -/
theorem fetchRecords_of_listTypes {selection : Selection} (hselection : p.selection = some selection)
    {names : List String} {state : σ} {s : Session σ}
    (hnames : client.listTypes s.state = (.ok names, state)) (maxDescribes : Nat) :
    p.fetchRecords client maxDescribes s =
      let described := client.describeAll (Text.sort (names.filter selection.includes))
        maxDescribes { s with state }
      p.fetchDescribed client described.1 described.2 := by
  simp only [fetchRecords, hselection, bind, StateT.bind, Wire.call, hnames]
  rfl

theorem fetchDescribed_of_types {ds : Descriptions} {types : List (ObjectType Element)}
    (htypes : ds.types = types) {fetched : Fetched} {s s' : Session σ}
    (hfetch : p.fetchTypes client types s = (.ok fetched, s')) :
    p.fetchDescribed client ds s =
      (.ok (({ warnings := ds.warnings : Fetched }).append fetched), s') := by
  simp only [fetchDescribed, htypes, bind, StateT.bind, hfetch]
  rfl

theorem fetchDescribed_brings (ds : Descriptions) (s : Session σ) :
    Fetched.Brings (fun es => ∃ parts, List.Forall₂ client.IsFetchOf ds.types parts ∧
      es = parts.flatten) (p.fetchDescribed client ds s).1 := by
  have htypes := p.fetchTypes_brings client ds.types s
  change Fetched.Brings _ ((p.fetchTypes client ds.types s).1.map _)
  cases hfetch : (p.fetchTypes client ds.types s).1 with
  | error e =>
    rw [hfetch] at htypes
    exact htypes
  | ok fetched =>
    rw [hfetch] at htypes
    exact htypes

theorem fetchRecords_brings (maxDescribes : Nat) (s : Session σ) :
    Fetched.Brings client.IsFetch (p.fetchRecords client maxDescribes s).1 := by
  cases hselection : p.selection with
  | none =>
    rw [fetchRecords, hselection]
    exact ⟨[], [], nofun, fun _ => List.nodup_nil, by rw [Descriptions.types_nil]; exact .nil, rfl⟩
  | some selection =>
    cases hnames : client.listTypes s.state with
    | mk answer state =>
    cases answer with
    | error e =>
      simp only [fetchRecords, hselection, bind, StateT.bind, Wire.call, hnames]
      exact ⟨e, rfl⟩
    | ok names =>
      rw [p.fetchRecords_of_listTypes client hselection hnames]
      obtain ⟨hasked, hdescribes⟩ := client.describeAll_describes
        (Text.sort (names.filter selection.includes)) maxDescribes { s with state }
      generalize client.describeAll _ _ _ = described at hasked hdescribes ⊢
      refine (p.fetchDescribed_brings client described.1 described.2).mono ?_
      rintro es ⟨parts, hparts, hflatten⟩
      refine ⟨described.1, parts, hdescribes, fun hlists => ?_, hparts, hflatten⟩
      rw [hasked, (Text.sort_perm _).nodup_iff]
      exact (hlists s.state names (by rw [hnames])).filter _

end FetchProfile

/-! ### Tooling types -/

namespace ToolingTypes

def type? : String × Except ClientError TypeSchema → Except Failure (ObjectType Element)
  | (name, d) => match d with
    | .ok schema => .ok (schema.toObjectType metadataType)
    | .error e => .error (failure name e)

theorem exists_of_mapM_type? {ds : Descriptions} {types : List (ObjectType Element)}
    (h : ds.mapM type? = .ok types) :
    ∃ schemas : List TypeSchema, List.Forall₂ (fun d schema => d.2 = .ok schema) ds schemas ∧
      types = schemas.map (·.toObjectType metadataType) := by
  induction ds generalizing types with
  | nil =>
    cases h
    exact ⟨[], .nil, rfl⟩
  | cons d ds ih =>
    obtain ⟨name, d⟩ := d
    rw [List.mapM_cons] at h
    cases d with
    | error e => cases h
    | ok schema =>
      cases hrest : ds.mapM type? with
      | error e =>
        rw [hrest] at h
        cases h
      | ok rest =>
        rw [hrest] at h
        cases h
        obtain ⟨schemas, hschemas, rfl⟩ := ih hrest
        exact ⟨schema :: schemas, .cons rfl hschemas, rfl⟩

/-- Either all types come or none. -/
theorem elements_of_ofDescriptions {ds : Descriptions} {fetched : Fetched}
    (h : ofDescriptions ds = .ok fetched) :
    ∃ schemas : List TypeSchema, List.Forall₂ (fun d schema => d.2 = .ok schema) ds schemas ∧
      fetched.elements.Perm
        (schemas.map fun schema => .objectType (schema.toObjectType metadataType)) := by
  have htypes : ofDescriptions ds = (ds.mapM type?).map fun types =>
      { elements := (Text.sortBy (fun t => t.id.typeName) types).map .objectType } := rfl
  rw [htypes] at h
  cases hread : ds.mapM type? with
  | error e =>
    rw [hread] at h
    cases h
  | ok types =>
    rw [hread] at h
    cases h
    obtain ⟨schemas, hschemas, rfl⟩ := exists_of_mapM_type? hread
    refine ⟨schemas, hschemas, ?_⟩
    rw [show (schemas.map fun schema => Element.objectType (schema.toObjectType metadataType)) =
      (schemas.map (·.toObjectType metadataType)).map .objectType from List.map_map.symm]
    exact (Text.sortBy_perm _ _).map _

end ToolingTypes

namespace FetchProfile
variable {σ : Type} (p : FetchProfile) (client : Client σ)

theorem safely_eq (feature warning : String) (step : Wire σ (Except Failure Fetched))
    (s : Session σ) :
    (p.safely feature warning step s).1.elements = [] ∨
      (step s).1 = .ok (p.safely feature warning step s).1 := by
  rw [safely]
  split
  case isFalse => exact .inl rfl
  case isTrue =>
    simp only [bind, StateT.bind]
    rcases step s with ⟨_ | fetched, s'⟩
    · exact .inl rfl
    · exact .inr rfl

def fetchTooling (maxDescribes : Nat) : Wire σ Fetched :=
  p.safely ToolingTypes.feature ToolingTypes.warning (ToolingTypes.fetch client maxDescribes)

theorem elements_fetchTooling (maxDescribes : Nat) (s : Session σ) :
    (p.fetchTooling client maxDescribes s).1.elements = [] ∨
      ∃ ds schemas, ds.map Prod.fst = ToolingTypes.typeNames ∧ client.Describes ds ∧
        List.Forall₂ (fun d schema => d.2 = .ok schema) ds schemas ∧
        (p.fetchTooling client maxDescribes s).1.elements.Perm (schemas.map fun schema =>
          .objectType (schema.toObjectType ToolingTypes.metadataType)) := by
  rcases p.safely_eq ToolingTypes.feature ToolingTypes.warning
    (ToolingTypes.fetch client maxDescribes) s with hnone | hsome
  · exact .inl hnone
  · obtain ⟨hnames, hdescribes⟩ :=
      client.describeAll_describes ToolingTypes.typeNames maxDescribes s
    obtain ⟨schemas, hschemas, hperm⟩ := ToolingTypes.elements_of_ofDescriptions hsome
    exact .inr ⟨_, schemas, hnames, hdescribes, hschemas, hperm⟩

variable {p client} in
theorem exists_of_mem_fetchTooling {maxDescribes : Nat} {s : Session σ} {e : Element}
    (he : e ∈ (p.fetchTooling client maxDescribes s).1.elements) :
    ∃ schema : TypeSchema, e = .objectType (schema.toObjectType ToolingTypes.metadataType) := by
  rcases p.elements_fetchTooling client maxDescribes s with hnone | ⟨-, schemas, -, -, -, hperm⟩
  · rw [hnone] at he
    cases he
  · obtain ⟨schema, -, rfl⟩ := List.mem_map.1 (hperm.mem_iff.1 he)
    exact ⟨schema, rfl⟩

end FetchProfile

end ElementSync
