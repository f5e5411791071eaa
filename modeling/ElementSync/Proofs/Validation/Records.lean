import ElementSync.Proofs.Reference.Rendering
import ElementSync.Proofs.Validation.Blocking
import ElementSync.Proofs.Value.Replacing
import Mathlib.Data.List.Count

/-!
# Values that cannot be updated

The states before and after an update are compared once their references are resolved through the
snapshots that they carry, outside of any deploy. Equal values can then differ only where two
references to one element carry snapshots with different identifiers. Values without references are
compared as they are.
-/

namespace ElementSync

/-! ### Resolving through snapshots -/

def Reference.identifier? (r : Reference Element) : Option Scalar :=
  ((r.handle.bind Element.inst?).bind (·.get? idField)).bind Value.scalar?

def Template.identified? (t : Template Element) : Option String :=
  t.textWith fun r => r.identifier?.map Scalar.render

/-- What a leaf resolves to where nothing is known but snapshots. -/
def Leaf.resolved : Leaf Element → Value Element
  | .scalar s => .scalar s
  | .reference r => r.identifier?.elim (.reference r) .scalar
  | .template t => t.identified?.elim (.template t) .text

theorem Strategy.serialize_default (e : Element) :
    Strategy.default.serialize e =
      ((e.inst?.bind (·.get? idField)).bind Value.scalar?).map .scalar := by
  cases hi : e.inst? with
  | none => simp [Strategy.default, identifier, hi]
  | some i =>
    cases hv : i.get? idField with
    | none => simp [Strategy.default, identifier, hi, hv]
    | some v => cases hs : v.scalar? <;> simp [Strategy.default, identifier, hi, hv, hs]

def Change.IsElsewhere (c : Change Element) (id : ElementId) : Prop :=
  ∀ e, c.before? = some e ∨ c.after? = some e → e.id ≠ id

namespace Validation

/-- The resolver of values that are compared, not sent. -/
def comparing : Resolver := { context := {}, policy := .keep }

theorem isFinal_comparing (field parentType : String) (r : Reference Element) :
    (comparing.resolve field parentType r).IsFinal :=
  LookupContext.resolveWith_isFinal {} ⟨idField, rfl⟩ r

theorem resolve_comparing (field parentType : String) (r : Reference Element) :
    comparing.resolve field parentType r =
      r.identifier?.elim .unresolved fun s => .resolved (.scalar s) := by
  have hvalue : (comparing.resolve field parentType r).value? = r.identifier?.map .scalar := by
    change (LookupContext.resolveWith {} .default r).value? = _
    rw [LookupContext.value?_resolveWith (by decide) rfl, Reference.identifier?]
    cases r.handle with
    | none => rfl
    | some e => exact Strategy.serialize_default e
  rcases isFinal_comparing field parentType r with ⟨t, ht⟩ | hnone
  · rw [ht] at hvalue ⊢
    cases hid : r.identifier? with
    | none => simp [hid, Resolution.value?] at hvalue
    | some s => simpa [hid, Resolution.value?] using hvalue
  · rw [hnone] at hvalue ⊢
    cases hid : r.identifier? with
    | none => rfl
    | some s => simp [hid, Resolution.value?] at hvalue

theorem replacesBy_resolved (parentType : String) :
    Value.ReplacesBy (comparing.resolveLeaf parentType) Leaf.resolved := by
  intro path l
  cases l with
  | scalar s => rfl
  | reference r =>
    simp only [Resolver.resolveLeaf, resolve_comparing, Leaf.resolved]
    cases r.identifier? <;> rfl
  | template t =>
    have htext : (t.textWith fun r => (comparing.resolve path.fieldName parentType r).text?) =
        t.identified? := by
      rw [Template.identified?]
      congr 1
      funext r
      rw [resolve_comparing]
      cases r.identifier? <;> rfl
    simp only [Resolver.resolveLeaf, Template.render_eq (isFinal_comparing _ _), htext,
      Leaf.resolved]
    cases t.identified? <;> rfl

theorem get?_resolved (i : Instance Element) (key : String) :
    (resolved i).get? key = (i.get? key).map (Value.replace Leaf.resolved) := by
  have hentries := Value.mapEntriesM_eq_replaceEntries (replacesBy_resolved i.typeName) [] i.value
  change (Value.mapEntriesM (m := Id) (comparing.resolveLeaf i.typeName) [] i.value).lookup key = _
  rw [hentries]
  exact Value.lookup_replaceEntries Leaf.resolved i.value key

end Validation

/-! ### Values that resolve alike -/

def Reference.Alike (r q : Reference Element) : Prop :=
  Option.Rel (fun s t => Scalar.same s t) r.identifier? q.identifier?

def Leaf.Alike (l m : Leaf Element) : Prop :=
  List.Forall₂ Reference.Alike l.references m.references

theorem Reference.Alike.text_eq {r q : Reference Element} (h : r.Alike q) :
    r.identifier?.map Scalar.render = q.identifier?.map Scalar.render := by
  rw [Alike] at h
  generalize r.identifier? = o at h ⊢
  generalize q.identifier? = o' at h ⊢
  cases h with
  | none => rfl
  | some hsame => exact congrArg some (Scalar.render_eq_of_same hsame)

theorem Leaf.keepsSame_resolved : Value.KeepsSame Leaf.Alike Leaf.resolved := by
  intro l m hsame halike
  cases l with
  | scalar s =>
    cases m with
    | scalar t => exact hsame
    | _ => cases hsame
  | reference r =>
    cases m with
    | reference q =>
      have hrq : r.Alike q := (List.forall₂_cons.1 halike).1
      rw [Reference.Alike] at hrq
      rw [resolved, resolved]
      generalize r.identifier? = o at hrq ⊢
      generalize q.identifier? = o' at hrq ⊢
      cases hrq with
      | none => exact hsame
      | some hids => exact hids
    | _ => cases hsame
  | template t =>
    cases m with
    | template u =>
      have htext : t.identified? = u.identified? :=
        Template.textWith_eq_of_same hsame (halike.imp fun _ _ h => h.text_eq)
      rw [resolved, resolved, htext]
      cases u.identified? with
      | none => exact hsame
      | some s => simp [Value.same, Value.text, Scalar.same]
    | _ => cases hsame

namespace Validation

section
variable {b a : Instance Element} {key : String}

theorem optionSame_resolved (hsame : Value.optionSame (a.get? key) (b.get? key))
    (halike : ∀ v w, a.get? key = some v → b.get? key = some w →
      Leaf.RelatedInPlace Leaf.Alike (v.leaves []) (w.leaves [])) :
    Value.optionSame ((resolved a).get? key) ((resolved b).get? key) := by
  rw [get?_resolved, get?_resolved]
  cases ha : a.get? key with
  | none =>
    cases hb : b.get? key with
    | none => rfl
    | some w => simp [ha, hb, Value.optionSame] at hsame
  | some v =>
    cases hb : b.get? key with
    | none => simp [ha, hb, Value.optionSame] at hsame
    | some w =>
      rw [ha, hb] at hsame
      exact Value.same_replace Leaf.keepsSame_resolved [] v w hsame (halike v w ha hb)

/-- Without references and templates there is nothing to resolve. -/
theorem get?_resolved_of_allScalars
    (hplain : ∀ v, a.get? key = some v → Leaf.AllScalars (v.leaves [])) :
    (resolved a).get? key = a.get? key := by
  rw [get?_resolved]
  cases ha : a.get? key with
  | none => rfl
  | some v =>
    have hkept : v.replace Leaf.resolved = v :=
      Value.replace_of_allScalars (replacesBy_resolved a.typeName) (fun _ _ => rfl) (hplain v ha)
    rw [Option.map_some, hkept]

end

/-! ### Warnings about updates -/

def updateWarning (i : Instance Element) (name : String) : Finding :=
  .warning i.id "Cannot modify the value of a non-updatable field"
    ("Cannot modify " ++ name ++ "'s value of " ++ i.id.fullName
      ++ " because its field is defined as non-updateable.")

theorem updateWarning_injective (i : Instance Element) : Function.Injective (updateWarning i) := by
  intro name name' h
  have hdetail := congrArg (fun f => f.detail.toList) h
  exact String.toList_inj.1 (by simpa [updateWarning, Finding.warning] using hdetail)

section
variable {b a : Instance Element}

def fixedNames (b a : Instance Element) : List String :=
  (a.type.fields.filter fun f => !f.flag AnnotationKey.updateable &&
    !Value.optionSame ((resolved a).get? f.name) ((resolved b).get? f.name)).map (·.name)

theorem notUpdateable_eq : notUpdateable b a = (fixedNames b a).map (updateWarning b) := by
  rw [fixedNames, List.map_map]
  rfl

variable (hnames : (a.type.fields.map (·.name)).Nodup) {f : Field Element}
  (hf : f ∈ a.type.fields) (hfixed : ¬ f.flag AnnotationKey.updateable)
include hnames hf hfixed

theorem mem_fixedNames : f.name ∈ fixedNames b a ↔
    ¬ Value.optionSame ((resolved a).get? f.name) ((resolved b).get? f.name) := by
  rw [fixedNames, List.mem_map]
  constructor
  · rintro ⟨g, hg, hname⟩
    obtain ⟨hg, hdiffers⟩ := List.mem_filter.1 hg
    obtain rfl := List.inj_on_of_nodup_map hnames hg hf hname
    simpa [hfixed] using hdiffers
  · intro hdiffers
    exact ⟨f, List.mem_filter.2 ⟨hf, by simp [hfixed, hdiffers]⟩, rfl⟩

theorem count_notUpdateable : (notUpdateable b a).count (updateWarning b f.name) =
    if Value.optionSame ((resolved a).get? f.name) ((resolved b).get? f.name) then 0 else 1 := by
  have hnodup : (fixedNames b a).Nodup := hnames.sublist (List.filter_sublist.map _)
  rw [notUpdateable_eq, List.count_map_of_injective _ _ (updateWarning_injective b)]
  split
  case isTrue hsame =>
    exact List.count_eq_zero_of_not_mem fun hmem => (mem_fixedNames hnames hf hfixed).1 hmem hsame
  case isFalse hdiffers =>
    exact List.count_eq_one_of_mem hnodup ((mem_fixedNames hnames hf hfixed).2 hdiffers)

end

theorem id_ne_of_mem_recordUpdate {c : Change Element} {id : ElementId} (hc : c.IsElsewhere id)
    {f : Finding} (hf : f ∈ recordUpdate c) : f.id ≠ id := by
  unfold recordUpdate at hf
  split at hf
  next before after =>
    split at hf
    · obtain ⟨_, -, rfl⟩ := List.mem_map.1 hf
      exact hc (.inst before) (.inl rfl)
    · cases hf
  · cases hf

theorem id_ne_of_mem_recordCreation {c : Change Element} {id : ElementId} (hc : c.IsElsewhere id)
    {f : Finding} (hf : f ∈ recordCreation c) : f.id ≠ id := by
  unfold recordCreation at hf
  split at hf
  next after =>
    split at hf
    · obtain ⟨_, -, rfl⟩ := List.mem_map.1 hf
      exact hc (.inst after) (.inr rfl)
    · cases hf
  · cases hf

/-- Changes of other elements bring no finding about this one. -/
theorem count_records {earlier later : List (Change Element)} {c : Change Element} {f : Finding}
    (hothers : ∀ d ∈ earlier ++ later, d.IsElsewhere f.id) :
    (records (earlier ++ c :: later)).count f = (records [c]).count f := by
  have hupdates : ∀ ds ⊆ earlier ++ later, (ds.flatMap recordUpdate).count f = 0 := by
    intro ds hds
    refine List.count_eq_zero_of_not_mem fun hmem => ?_
    obtain ⟨d, hd, hf⟩ := List.mem_flatMap.1 hmem
    exact id_ne_of_mem_recordUpdate (hothers d (hds hd)) hf rfl
  have hcreations : ∀ ds ⊆ earlier ++ later, (ds.flatMap recordCreation).count f = 0 := by
    intro ds hds
    refine List.count_eq_zero_of_not_mem fun hmem => ?_
    obtain ⟨d, hd, hf⟩ := List.mem_flatMap.1 hmem
    exact id_ne_of_mem_recordCreation (hothers d (hds hd)) hf rfl
  have hearlier := List.subset_append_left earlier later
  have hlater := List.subset_append_right earlier later
  simp only [records, List.flatMap_append, List.flatMap_cons, List.flatMap_nil, List.count_append,
    List.count_nil, hupdates _ hearlier, hupdates _ hlater, hcreations _ hearlier,
    hcreations _ hlater, Nat.zero_add, Nat.add_zero]

/-- Whatever other elements change beside it, a record that is updated is warned about once for each
field that is not updateable and whose values differ, if these hold no references and no templates.
It is not warned about a field whose values are the same and refer to snapshots with the same
identifiers. -/
theorem count_updateWarning {b a : Instance Element} (hrecord : a.isRecord)
    (hnames : (a.type.fields.map (·.name)).Nodup) {f : Field Element} (hf : f ∈ a.type.fields)
    (hfixed : ¬ f.flag AnnotationKey.updateable) {earlier later : List (Change Element)}
    (hothers : ∀ d ∈ earlier ++ later, d.IsElsewhere b.id) :
    let warned := (records (earlier ++ .modification (.inst b) (.inst a) :: later)).count
      (updateWarning b f.name)
    (Value.optionSame (a.get? f.name) (b.get? f.name) →
      (∀ v w, a.get? f.name = some v → b.get? f.name = some w →
        Leaf.RelatedInPlace Leaf.Alike (v.leaves []) (w.leaves [])) → warned = 0) ∧
    (¬ Value.optionSame (a.get? f.name) (b.get? f.name) →
      (∀ v, a.get? f.name = some v ∨ b.get? f.name = some v → Leaf.AllScalars (v.leaves [])) →
        warned = 1) := by
  have halone : records [.modification (.inst b) (.inst a)] = notUpdateable b a := by
    simp [records, recordUpdate, recordCreation, hrecord]
  have hwarned : (records (earlier ++ .modification (.inst b) (.inst a) :: later)).count
      (updateWarning b f.name) = _ :=
    (count_records hothers).trans (halone ▸ count_notUpdateable hnames hf hfixed)
  intro warned
  constructor
  · intro hsame halike
    exact hwarned.trans (if_pos (optionSame_resolved hsame halike))
  · intro hdiffers hplain
    rw [get?_resolved_of_allScalars fun v hv => hplain v (.inl hv),
      get?_resolved_of_allScalars fun v hv => hplain v (.inr hv)] at hwarned
    exact hwarned.trans (if_neg hdiffers)

def userType : ObjectType Element where
  id := .type salesforce "User"
  annotations := [(AnnotationKey.metadataType, .text customObject)]

def user (identifier : String) : Instance Element where
  name := "Ann"
  type := userType
  value := [(idField, .text identifier)]

def contractField (name : String) : Field Element where
  parent := .type salesforce "Contract"
  name := name
  type := .string

def contract (code identifier : String) : Instance Element where
  name := "C_1"
  type :=
    { id := .type salesforce "Contract"
      fields := [contractField "Code", contractField "OwnerId"]
      annotations := [(AnnotationKey.metadataType, .text customObject)] }
  value := [("Code", .text code), ("OwnerId", .reference (.ofElement (.inst (user identifier))))]

/-- Another code is warned about; the owner is the same. -/
theorem count_updateWarning_contract :
    let b := contract "A" "005A"
    let a := contract "B" "005A"
    let cs := invoiceAndScore ++ [.modification (.inst b) (.inst a)]
    a.isRecord ∧ (a.type.fields.map (·.name)).Nodup ∧ (∀ f ∈ a.type.fields,
      ¬ f.flag AnnotationKey.updateable) ∧ (∀ d ∈ invoiceAndScore ++ [], d.IsElsewhere b.id) ∧
      (records cs).count (updateWarning b "Code") = 1 ∧
      (records cs).count (updateWarning b "OwnerId") = 0 := by
  intro b a cs
  have hrecord : a.isRecord := by decide
  have hnames : (a.type.fields.map (·.name)).Nodup := by decide
  have hfixed : ∀ f ∈ a.type.fields, ¬ f.flag AnnotationKey.updateable := by decide
  have hothers : ∀ d ∈ invoiceAndScore ++ [], d.IsElsewhere b.id := by
    intro d hd e he
    rcases List.mem_pair.1 hd with rfl | rfl
    · rcases he with he | he <;> cases he
      decide
    · rcases he with he | he <;> cases he
      decide
  have hcode : contractField "Code" ∈ a.type.fields := List.mem_cons_self
  have howner : contractField "OwnerId" ∈ a.type.fields := List.mem_cons_of_mem _ List.mem_cons_self
  refine ⟨hrecord, hnames, hfixed, hothers, ?_, ?_⟩
  · refine (count_updateWarning hrecord hnames hcode (hfixed _ hcode) hothers).2 (by decide) ?_
    rintro v (hv | hv) <;> cases hv
    · exact Leaf.allScalars_singleton.2 ⟨_, rfl⟩
    · exact Leaf.allScalars_singleton.2 ⟨_, rfl⟩
  · refine (count_updateWarning hrecord hnames howner (hfixed _ howner) hothers).1 (by decide) ?_
    intro v w hv hw path l m hl hm
    cases hv
    cases hw
    obtain rfl := congrArg Prod.snd (List.mem_singleton.1 hl)
    obtain rfl := congrArg Prod.snd (List.mem_singleton.1 hm)
    have hidentifier : Option.Rel (fun s t => Scalar.same s t) (some (.text "005A"))
        (some (.text "005A")) := .some (by decide)
    exact .cons hidentifier .nil

/-- The owner is the same user, but is known by another identifier after the update. -/
theorem warned_of_other_snapshot :
    let b := contract "A" "005A"
    let a := contract "A" "005B"
    b.id = a.id ∧ a.isRecord ∧ contractField "OwnerId" ∈ a.type.fields ∧
      ¬ (contractField "OwnerId").flag AnnotationKey.updateable ∧
      Value.optionSame (a.get? "OwnerId") (b.get? "OwnerId") ∧
      updateWarning b "OwnerId" ∈ records [.modification (.inst b) (.inst a)] := by
  intro b a
  have howner : contractField "OwnerId" ∈ a.type.fields := List.mem_cons_of_mem _ List.mem_cons_self
  exact ⟨rfl, by decide, howner, by decide, by decide, by decide +kernel⟩

end Validation

end ElementSync
