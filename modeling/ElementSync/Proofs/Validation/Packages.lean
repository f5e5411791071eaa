import ElementSync.Proofs.Validation.Blocking

/-!
# Modifications of packaged elements

Two states of a type differ in annotations, in the fields that there are, and in the types and
annotations of fields. Of a packaged element only help text and description may differ, its own and
those of its fields. Fields are noted by name beside the annotations, so a field that is named like
one of the two passes for it when it comes, goes or changes its type.
-/

namespace ElementSync

inductive Place where
  | annotated (key : String)
  | type
  | field (name : String)
  | fieldType (name : String)
  | fieldAnnotated (name key : String)

namespace Place

/-- Help text and description are not the publisher's alone. -/
def IsModifiable : Place → Prop
  | annotated key | fieldAnnotated _ key => key ∈ Validation.modifiableProperties
  | type | field _ | fieldType _ => False

def LiesIn (name : String) : Place → Prop
  | field n | fieldType n | fieldAnnotated n _ => n = name
  | annotated _ | type => False

end Place

namespace Element

def field? : Element → String → Option (Field Element)
  | .objectType t, name => t.field? name
  | _, _ => none

/-- An annotation that only one state has is a difference as well. -/
def DiffersAt (b a : Element) : Place → Prop
  | .annotated key => ¬ Value.optionSame (b.annotations.lookup key) (a.annotations.lookup key)
  | .type => ∃ f g, b = .field f ∧ a = .field g ∧ f.type ≠ g.type
  | .field name => (b.field? name).isSome ≠ (a.field? name).isSome
  | .fieldType name => ∃ f g, b.field? name = some f ∧ a.field? name = some g ∧ f.type ≠ g.type
  | .fieldAnnotated name key => ∃ f g, b.field? name = some f ∧ a.field? name = some g ∧
      ¬ Value.optionSame (f.annotations.lookup key) (g.annotations.lookup key)

inductive AreOwnable : Element → Element → Prop where
  | types {b a : ObjectType Element}
      (before : b.annotationText? AnnotationKey.metadataType = some customObject)
      (after : a.annotationText? AnnotationKey.metadataType = some customObject) :
      AreOwnable (.objectType b) (.objectType a)
  | fields (b a : Field Element) : AreOwnable (.field b) (.field a)

def HasDistinctKeys : Element → Prop
  | .objectType t => (Assoc.keys t.annotations).Nodup ∧ (t.fields.map (·.name)).Nodup ∧
      ∀ f ∈ t.fields, (Assoc.keys f.annotations).Nodup
  | e => (Assoc.keys e.annotations).Nodup

end Element

theorem ObjectType.isSome_field?_iff {t : ObjectType Element} {name : String} :
    (t.field? name).isSome ↔ name ∈ t.fields.map (·.name) := by
  simp [ObjectType.field?, List.find?_isSome]

theorem ObjectType.field?_of_mem {t : ObjectType Element} (ht : (t.fields.map (·.name)).Nodup)
    {f : Field Element} (hf : f ∈ t.fields) : t.field? f.name = some f := by
  cases hfind : t.field? f.name with
  | none => exact absurd (List.find?_eq_none.1 hfind f hf) (by simp)
  | some g =>
    have hname : g.name = f.name := by simpa using List.find?_some hfind
    rw [List.inj_on_of_nodup_map ht (List.mem_of_find?_eq_some hfind) hf hname]

namespace Assoc
variable {κ α : Type} [DecidableEq κ]

theorem lookup_eq_some_iff_mem {m : Assoc κ α} (hm : (keys m).Nodup) {k : κ} {a : α} :
    m.lookup k = some a ↔ (k, a) ∈ m :=
  ⟨mem_of_lookup, fun h => lookup_of_mem hm h⟩

theorem mem_keys_iff_isSome_lookup {m : Assoc κ α} {k : κ} :
    k ∈ keys m ↔ (m.lookup k).isSome := by
  rw [List.lookup_isSome_iff, keys, List.mem_map]
  exact exists_congr fun e => and_congr_right fun _ => by rw [beq_iff_eq, eq_comm]

end Assoc

namespace Validation

/-! ### What is noted of two states -/

theorem mem_changedKeys {before after : Values Element} (hafter : (Assoc.keys after).Nodup)
    {key : String} :
    key ∈ changedKeys before after ↔
      ¬ Value.optionSame (before.lookup key) (after.lookup key) := by
  have hcases : ¬ Value.optionSame (before.lookup key) (after.lookup key) ↔
      (∃ v, after.lookup key = some v ∧ ¬ (before.lookup key).any (·.same v)) ∨
        (before.lookup key).isSome ∧ after.lookup key = none := by
    cases after.lookup key <;> cases before.lookup key <;> simp [Value.optionSame]
  rw [hcases, changedKeys, List.mem_append]
  refine or_congr ?_ ?_
  · simp [Assoc.lookup_eq_some_iff_mem hafter]
  · simp [Assoc.mem_keys_iff_isSome_lookup, Assoc.hasKey]

end Validation

def Place.note : Place → String
  | annotated key | fieldAnnotated _ key => key
  | type => "type"
  | field name | fieldType name => name

namespace Element
variable (b a : Element)

/-- Of a field that changes its type the annotations are not compared. -/
def IsNoted : Place → Prop
  | .fieldAnnotated name _ => ¬ b.DiffersAt a (.fieldType name)
  | _ => True

def NotesAt (key : String) (p : Place) : Prop := b.DiffersAt a p ∧ b.IsNoted a p ∧ p.note = key

end Element

namespace Validation

section
variable {b a : ObjectType Element} (ha : (Element.objectType a).HasDistinctKeys)
  {f : Field Element} (hf : f ∈ a.fields) {key : String}
include ha hf

theorem mem_changedFieldKeys_of_none (hold : b.field? f.name = none) :
    key ∈ changedFieldKeys b f ↔
      ∃ p : Place, p.LiesIn f.name ∧ (Element.objectType b).NotesAt (.objectType a) key p := by
  have hbefore : (Element.objectType b).field? f.name = none := hold
  have hafter : (Element.objectType a).field? f.name = some f := ObjectType.field?_of_mem ha.2.1 hf
  simp only [changedFieldKeys, hold, List.mem_singleton]
  constructor
  · rintro rfl
    exact ⟨.field f.name, rfl, by simp [Element.DiffersAt, hbefore, hafter], trivial, rfl⟩
  · rintro ⟨p, hp, hdiffers, -, rfl⟩
    cases p with
    | field n => exact hp
    | fieldType n => exact hp
    | fieldAnnotated n k =>
      obtain ⟨g, -, hg, -⟩ := hdiffers
      rw [hp, hbefore] at hg
      cases hg
    | _ => cases hp

theorem mem_changedFieldKeys_of_some {old : Field Element} (hold : b.field? f.name = some old) :
    key ∈ changedFieldKeys b f ↔
      ∃ p : Place, p.LiesIn f.name ∧ (Element.objectType b).NotesAt (.objectType a) key p := by
  have hbefore : (Element.objectType b).field? f.name = some old := hold
  have hafter : (Element.objectType a).field? f.name = some f := ObjectType.field?_of_mem ha.2.1 hf
  have hkeys : (Assoc.keys f.annotations).Nodup := ha.2.2 f hf
  have hpresent : ¬ (Element.objectType b).DiffersAt (.objectType a) (.field f.name) := by
    simp [Element.DiffersAt, hbefore, hafter]
  have htype : (Element.objectType b).DiffersAt (.objectType a) (.fieldType f.name) ↔
      old.type ≠ f.type := by
    simp [Element.DiffersAt, hbefore, hafter]
  have hannotated : ∀ k, (Element.objectType b).DiffersAt (.objectType a)
      (.fieldAnnotated f.name k) ↔ k ∈ changedKeys old.annotations f.annotations := by
    simp [Element.DiffersAt, hbefore, hafter, mem_changedKeys hkeys]
  simp only [changedFieldKeys, hold]
  split
  case isTrue hsame =>
    rw [← hannotated]
    constructor
    · intro hdiffers
      exact ⟨.fieldAnnotated f.name key, rfl, hdiffers, by simpa [Element.IsNoted, htype], rfl⟩
    · rintro ⟨p, hp, hdiffers, -, rfl⟩
      cases p with
      | field n => exact absurd (hp ▸ hdiffers) hpresent
      | fieldType n => exact absurd hsame (htype.1 (hp ▸ hdiffers))
      | fieldAnnotated n k => exact hp ▸ hdiffers
      | _ => cases hp
  case isFalse hother =>
    rw [List.mem_singleton]
    constructor
    · rintro rfl
      exact ⟨.fieldType f.name, rfl, htype.2 hother, trivial, rfl⟩
    · rintro ⟨p, hp, hdiffers, hnoted, rfl⟩
      cases p with
      | field n => exact hp
      | fieldType n => exact hp
      | fieldAnnotated n k =>
        -- the annotations are left out, since the type differs
        exact absurd (htype.2 hother) (hp ▸ hnoted)
      | _ => cases hp

theorem mem_changedFieldKeys : key ∈ changedFieldKeys b f ↔
    ∃ p : Place, p.LiesIn f.name ∧ (Element.objectType b).NotesAt (.objectType a) key p := by
  cases hold : b.field? f.name with
  | none => exact mem_changedFieldKeys_of_none ha hf hold
  | some old => exact mem_changedFieldKeys_of_some ha hf hold

omit hf

theorem mem_changedProperties_objectType :
    key ∈ changedProperties (.objectType b) (.objectType a) ↔
      ∃ p, (Element.objectType b).NotesAt (.objectType a) key p := by
  have hgone : key ∈ (b.fields.map (·.name)).filter (fun name => (a.field? name).isNone) ↔
      (b.field? key).isSome ∧ a.field? key = none := by
    rw [List.mem_filter, ObjectType.isSome_field?_iff, Option.isNone_iff_eq_none]
  rw [changedProperties, List.mem_append, List.mem_append, List.mem_flatMap, hgone,
    Element.annotations, Element.annotations, mem_changedKeys ha.1]
  constructor
  · rintro (hannotated | ⟨f, hf, hfield⟩ | ⟨hb, hnone⟩)
    · exact ⟨.annotated key, hannotated, trivial, rfl⟩
    · obtain ⟨p, -, hp⟩ := (mem_changedFieldKeys ha hf).1 hfield
      exact ⟨p, hp⟩
    · refine ⟨.field key, ?_, trivial, rfl⟩
      simp [Element.DiffersAt, Element.field?, hb, hnone]
  · rintro ⟨p, hdiffers, hnoted, rfl⟩
    have hkept : ∀ name f, a.field? name = some f → p.LiesIn name →
        ∃ f ∈ a.fields, p.note ∈ changedFieldKeys b f := by
      intro name f hfind hp
      have hf : f ∈ a.fields := List.mem_of_find?_eq_some hfind
      have hname : f.name = name := by simpa using List.find?_some hfind
      exact ⟨f, hf, (mem_changedFieldKeys ha hf).2 ⟨p, hname ▸ hp, hdiffers, hnoted, rfl⟩⟩
    cases p with
    | annotated k => exact .inl hdiffers
    | type =>
      obtain ⟨f, -, hb, -⟩ := hdiffers
      cases hb
    | field n =>
      cases hfind : a.field? n with
      | none =>
        refine .inr (.inr ⟨?_, hfind⟩)
        change (b.field? n).isSome
        simpa [Element.DiffersAt, Element.field?, hfind, Option.isSome_iff_ne_none] using hdiffers
      | some f => exact .inr (.inl (hkept n f hfind rfl))
    | fieldType n =>
      obtain ⟨-, f, -, hfind, -⟩ := hdiffers
      exact .inr (.inl (hkept n f hfind rfl))
    | fieldAnnotated n k =>
      obtain ⟨-, f, -, hfind, -⟩ := hdiffers
      exact .inr (.inl (hkept n f hfind rfl))

end

theorem mem_changedProperties_field {b a : Field Element}
    (ha : (Assoc.keys a.annotations).Nodup) {key : String} :
    key ∈ changedProperties (.field b) (.field a) ↔
      ∃ p, (Element.field b).NotesAt (.field a) key p := by
  have htype : key ∈ (if b.type = a.type then [] else ["type"]) ↔
      b.type ≠ a.type ∧ key = "type" := by
    split <;> simp [*]
  rw [changedProperties, List.mem_append, htype, Element.annotations, Element.annotations,
    mem_changedKeys ha]
  constructor
  · rintro (hannotated | ⟨hne, rfl⟩)
    · exact ⟨.annotated key, hannotated, trivial, rfl⟩
    · exact ⟨.type, ⟨b, a, rfl, rfl, hne⟩, trivial, rfl⟩
  · rintro ⟨p, hdiffers, -, rfl⟩
    cases p with
    | annotated k => exact .inl hdiffers
    | type =>
      obtain ⟨_, _, ⟨⟩, ⟨⟩, hne⟩ := hdiffers
      exact .inr ⟨hne, rfl⟩
    | field n => exact absurd rfl hdiffers
    | fieldType n =>
      obtain ⟨_, _, hnone, -⟩ := hdiffers
      cases hnone
    | fieldAnnotated n k =>
      obtain ⟨_, _, hnone, -⟩ := hdiffers
      cases hnone

theorem mem_changedProperties {b a : Element} (hba : b.AreOwnable a) (ha : a.HasDistinctKeys)
    {key : String} :
    key ∈ changedProperties b a ↔ ∃ p, b.NotesAt a key p := by
  cases hba with
  | types before after => exact mem_changedProperties_objectType ha
  | fields b a => exact mem_changedProperties_field ha

/-! ### What is reported -/

theorem isForbidden_iff {b a : Element} (hba : b.AreOwnable a) (ha : a.HasDistinctKeys) :
    isForbidden b a ↔ ∃ p, b.DiffersAt a p ∧ ¬ p.IsModifiable ∧
      ∀ name ∈ modifiableProperties, p.LiesIn name →
        ¬ b.DiffersAt a (.field name) ∧ ¬ b.DiffersAt a (.fieldType name) := by
  have hnoted : isForbidden b a ↔
      ∃ p, b.DiffersAt a p ∧ b.IsNoted a p ∧ p.note ∉ modifiableProperties := by
    simp only [isForbidden, List.any_eq_true, mem_changedProperties hba ha]
    constructor
    · rintro ⟨key, ⟨p, hdiffers, hp, rfl⟩, hkey⟩
      exact ⟨p, hdiffers, hp, by simpa using hkey⟩
    · rintro ⟨p, hdiffers, hp, hkey⟩
      exact ⟨p.note, ⟨p, hdiffers, hp, rfl⟩, by simpa using hkey⟩
  rw [hnoted]
  constructor
  · rintro ⟨p, hdiffers, hp, hkey⟩
    refine ⟨p, hdiffers, ?_, ?_⟩
    · cases p with
      | annotated k => exact hkey
      | fieldAnnotated n k => exact hkey
      | _ => exact not_false
    · intro name hname hin
      cases p with
      | field n => exact absurd hname (hin ▸ hkey)
      | fieldType n => exact absurd hname (hin ▸ hkey)
      | fieldAnnotated n k =>
        obtain ⟨f, g, hf, hg, -⟩ := hdiffers
        subst hin
        exact ⟨by simp [Element.DiffersAt, hf, hg], hp⟩
      | _ => cases hin
  · rintro ⟨p, hdiffers, hmodifiable, hplain⟩
    cases p with
    | annotated k => exact ⟨.annotated k, hdiffers, trivial, hmodifiable⟩
    | type => exact ⟨.type, hdiffers, trivial, by decide⟩
    | field n =>
      exact ⟨.field n, hdiffers, trivial, fun hn => (hplain n hn rfl).1 hdiffers⟩
    | fieldType n =>
      exact ⟨.fieldType n, hdiffers, trivial, fun hn => (hplain n hn rfl).2 hdiffers⟩
    | fieldAnnotated n k =>
      by_cases htype : b.DiffersAt a (.fieldType n)
      · exact ⟨.fieldType n, htype, trivial, fun hn => (hplain n hn rfl).2 htype⟩
      · exact ⟨.fieldAnnotated n k, hdiffers, htype, hmodifiable⟩

theorem isPackaged_eq_hasNamespace {b a : Element} (hba : b.AreOwnable a) :
    isPackaged a = a.hasNamespace := by
  cases hba with
  | types before after => simp [isPackaged, after]
  | fields b a => simp [isPackaged]

def modificationError (a : Element) : Finding :=
  packageError a ("Modification is forbidden of any property that is not one of the following: "
    ++ ", ".intercalate modifiableProperties)

theorem packages_modification {b a : Element} (hba : b.AreOwnable a) :
    packages [.modification b a] =
      if a.hasNamespace && isForbidden b a then [modificationError a] else [] := by
  have hversion : packageVersionChanged (.modification b a) = none := by
    cases hba <;> rfl
  rw [← isPackaged_eq_hasNamespace hba, packages]
  simp only [List.filterMap_cons, List.filterMap_nil, packageAddOrRemove, packageFieldsRemoved,
    hversion, packageModify, List.nil_append, List.append_nil]
  cases isPackaged a && isForbidden b a <;> rfl

/-- An error about a modification is one that the modification has alone. -/
theorem exists_error_iff_singleton {cs : List (Change Element)} (hids : (cs.map Change.id).Nodup)
    {c : Change Element} (hc : c ∈ cs) :
    (∃ f ∈ packages cs, f.isBlocking ∧ f.id = c.id) ↔ ∃ f ∈ packages [c], f.isBlocking := by
  constructor
  · rintro ⟨f, hf, hblocking, hid⟩
    obtain ⟨d, hd, hf⟩ := (Validator.packages.isPointwise_validate cs f).1 hf
    obtain rfl := List.inj_on_of_nodup_map hids hd hc ((id_of_mem_packages hf).symm.trans hid)
    exact ⟨f, hf, hblocking⟩
  · rintro ⟨f, hf, hblocking⟩
    exact ⟨f, (Validator.packages.isPointwise_validate cs f).2 ⟨c, hc, hf⟩, hblocking,
      id_of_mem_packages hf⟩

/-- Whatever other changes there are, a modification of a type or a field is refused exactly when
its outcome is packaged and the two states differ in something else than help text and description,
leaving out the fields of that name that come, go or change their type. -/
theorem refuses_modification_iff {cs : List (Change Element)} (hids : (cs.map Change.id).Nodup)
    {b a : Element} (hc : .modification b a ∈ cs) (hba : b.AreOwnable a)
    (ha : a.HasDistinctKeys) :
    (∃ f ∈ packages cs, f.isBlocking ∧ f.id = a.id) ↔
      a.hasNamespace ∧ ∃ p, b.DiffersAt a p ∧ ¬ p.IsModifiable ∧
        ∀ name ∈ modifiableProperties, p.LiesIn name →
          ¬ b.DiffersAt a (.field name) ∧ ¬ b.DiffersAt a (.fieldType name) := by
  rw [← isForbidden_iff hba ha, ← Bool.and_eq_true]
  refine (exists_error_iff_singleton hids hc).trans ?_
  rw [packages_modification hba]
  split
  case isTrue h => exact iff_of_true ⟨_, List.mem_singleton_self _, rfl⟩ h
  case isFalse h => exact iff_of_false nofun h

def planType (fields : List (Field Element)) : ObjectType Element where
  id := .type salesforce "ns__Plan__c"
  fields := fields
  annotations := [(AnnotationKey.metadataType, .text customObject),
    (AnnotationKey.apiName, .text "ns__Plan__c")]

def rateField (label help : String) : Field Element where
  parent := .type salesforce "ns__Plan__c"
  name := "Rate"
  type := .number
  annotations := [(AnnotationKey.label, .text label), ("inlineHelpText", .text help)]

def descriptionField : Field Element where
  parent := .type salesforce "ns__Plan__c"
  name := "description"
  type := .string

/-- Beside help text and a description, the label of a field changes. -/
theorem refuses_modification_iff_plan :
    let b := Element.objectType (planType [rateField "Rate" "", descriptionField])
    let a := Element.objectType (planType [rateField "Price" "per month"])
    let cs := invoiceAndScore ++ [.modification b a]
    (cs.map Change.id).Nodup ∧ .modification b a ∈ cs ∧ b.AreOwnable a ∧ a.HasDistinctKeys ∧
      (∃ f ∈ packages cs, f.isBlocking ∧ f.id = a.id) ∧
      ((∃ f ∈ packages cs, f.isBlocking ∧ f.id = a.id) ↔
        a.hasNamespace ∧ ∃ p, b.DiffersAt a p ∧ ¬ p.IsModifiable ∧
          ∀ name ∈ modifiableProperties, p.LiesIn name →
            ¬ b.DiffersAt a (.field name) ∧ ¬ b.DiffersAt a (.fieldType name)) := by
  intro b a cs
  have hids : (cs.map Change.id).Nodup := by decide
  have hc : .modification b a ∈ cs := List.mem_append_right _ List.mem_cons_self
  have hba : b.AreOwnable a := .types rfl rfl
  have ha : a.HasDistinctKeys := by
    refine ⟨by decide, by decide, fun f hf => ?_⟩
    obtain rfl := List.mem_singleton.1 hf
    decide
  have hiff := refuses_modification_iff hids hc hba ha
  refine ⟨hids, hc, hba, ha, hiff.2 ⟨by decide +kernel, .fieldAnnotated "Rate" "label", ?_⟩, hiff⟩
  have hlabel : "label" ∉ modifiableProperties := by decide
  refine ⟨⟨rateField "Rate" "", rateField "Price" "per month", rfl, rfl, by decide⟩, hlabel, ?_⟩
  rintro name hname rfl
  exact absurd hname (by decide)

/-- A packaged type may lose a field, if the field is named like a property of the type. -/
theorem not_refuses_lost_description :
    let b := Element.objectType (planType [descriptionField])
    let a := Element.objectType (planType [])
    b.id = a.id ∧ b.AreOwnable a ∧ b.HasDistinctKeys ∧ a.HasDistinctKeys ∧ b.hasNamespace ∧
      a.hasNamespace ∧ b.DiffersAt a (.field "description") ∧
      ¬ (Place.field "description").IsModifiable ∧
      ¬ ∃ f ∈ packages [.modification b a], f.isBlocking ∧ f.id = a.id := by
  intro b a
  have hbefore : b.HasDistinctKeys := by
    refine ⟨by decide, by decide, fun f hf => ?_⟩
    obtain rfl := List.mem_singleton.1 hf
    decide
  have hafter : a.HasDistinctKeys := ⟨by decide, by decide, nofun⟩
  have hlost : (b.field? "description").isSome ≠ (a.field? "description").isSome := by decide
  refine ⟨rfl, .types rfl rfl, hbefore, hafter, by decide +kernel, by decide +kernel, hlost,
    not_false, ?_⟩
  have hnone : packages [.modification b a] = [] := by decide +kernel
  rw [hnone]
  nofun

end Validation

end ElementSync
