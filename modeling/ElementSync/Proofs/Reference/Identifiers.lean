import ElementSync.Proofs.Reference.Precedence
import ElementSync.Proofs.Value.Leaves
import ElementSync.Proofs.Value.Plain
import ElementSync.Reference.Resolver

/-!
# Resolving to identifiers

Scalars stay where they are and no field comes in, whatever the rules and the policy are. An
identifier is a scalar, and a target that waits for its identifier is left unresolved, never
deferred. So a resolver that asks for identifiers alone and drops what has none leaves plain
values, whatever it is given.
-/

namespace ElementSync

namespace Resolver
variable (resolver : Resolver) {i : Instance Element} {key : String}

theorem get?_resolveInstance_of_none (h : i.get? key = none) :
    (resolver.resolveInstance i).get? key = none :=
  Values.lookup_mapEntries_of_none h

theorem get?_resolveInstance_of_scalar {s : Scalar} (h : i.get? key = some (.scalar s)) :
    (resolver.resolveInstance i).get? key = some (.scalar s) :=
  Values.lookup_mapEntries_of_scalar (fun _ => rfl) h

/-- When no key stands twice, a leaf gives way to what it is resolved to. -/
theorem get?_resolveInstance_of_leaf (hkeys : (Assoc.keys i.value).Nodup) {l : Leaf Element}
    (h : i.get? key = some l.value) :
    (resolver.resolveInstance i).get? key = resolver.resolveLeaf i.typeName [key] l := by
  refine (Values.lookup_mapEntries hkeys key).trans ?_
  rw [← Instance.get?, h]
  cases l <;> rfl

@[simp] theorem data_resolveChange (c : RecordChange) :
    (resolver.resolveChange c).data = resolver.resolveInstance c.data :=
  Change.data_map _ c

theorem after?_resolveChange (c : RecordChange) :
    (resolver.resolveChange c).after? = c.after?.map resolver.resolveInstance := by
  cases c <;> rfl

end Resolver

def Strategy.ReadsIdentifier (s : Strategy) : Prop := ∃ field, s = .identifier field

theorem Strategy.ReadsIdentifier.exists_scalar {s : Strategy} (hs : s.ReadsIdentifier) {e : Element}
    {v : Value Element} (h : s.serialize e = some v) : ∃ t, v = .scalar t := by
  obtain ⟨field, rfl⟩ := hs
  obtain ⟨i, -, h⟩ := Option.bind_eq_some_iff.1 h
  obtain ⟨w, -, h⟩ := Option.bind_eq_some_iff.1 h
  obtain ⟨t, -, h⟩ := Option.bind_eq_some_iff.1 h
  exact ⟨t, (Option.some.inj h).symm⟩

theorem Strategy.ReadsIdentifier.isIdentifier {s : Strategy} (hs : s.ReadsIdentifier) :
    s.isIdentifier := by
  obtain ⟨field, rfl⟩ := hs
  rfl

/-- What all rules and the default have in common, the strategy of every field has. -/
theorem SerializationRule.getD_strategyFor? {P : Strategy → Prop} {rules : List SerializationRule}
    {fallback : Strategy} (hrules : ∀ rule ∈ rules, P rule.strategy) (hfallback : P fallback)
    (field parentType : String) : P ((strategyFor? rules field parentType).getD fallback) := by
  cases hrule : strategyFor? rules field parentType with
  | none => exact hfallback
  | some s =>
    obtain ⟨rule, hfind, rfl⟩ := Option.map_eq_some_iff.1 hrule
    exact hrules rule (List.mem_of_find?_eq_some hfind)

def Resolution.IsFinal (r : Resolution) : Prop :=
  (∃ t, r = .resolved (.scalar t)) ∨ r = .unresolved

theorem LookupContext.resolveWith_isFinal (c : LookupContext) {s : Strategy}
    (hs : s.ReadsIdentifier) (r : Reference Element) : (c.resolveWith s r).IsFinal := by
  cases hr : c.resolveWith s r with
  | resolved v =>
    obtain ⟨e, hserialize⟩ := exists_serialize_of_resolved hr
    obtain ⟨t, rfl⟩ := hs.exists_scalar hserialize
    exact Or.inl ⟨t, rfl⟩
  | deferred e =>
    obtain ⟨-, -, hother⟩ := resolveWith_eq_deferred_iff.1 hr
    exact absurd hs.isIdentifier hother
  | unresolved => exact Or.inr rfl

/-- A target outside the group is resolved to what is known of it. -/
theorem LookupContext.value?_resolveWith {c : LookupContext} {s : Strategy} {r : Reference Element}
    (hgroup : c.group ≠ c.metadataGroup) (hmember : c.member? r.target = none) :
    (c.resolveWith s r).value? = (r.handle.or (c.source r.target)).bind s.serialize := by
  rw [resolveWith_of_not_member hgroup hmember]
  cases (r.handle.or (c.source r.target)).bind s.serialize <;> rfl

theorem Rendering.prepend_ne_pending {s : String} {r : Rendering} (h : r ≠ .pending) :
    r.prepend s ≠ .pending := by
  cases r with
  | text t => nofun
  | pending => exact absurd rfl h
  | unresolved => nofun

theorem Template.render_ne_pending {resolve : Reference Element → Resolution}
    (h : ∀ r, (resolve r).IsFinal) (ps : List (Part Element)) : render resolve ps ≠ .pending := by
  induction ps with
  | nil => nofun
  | cons p ps ih =>
    cases p with
    | literal s => exact Rendering.prepend_ne_pending ih
    | reference r =>
      rcases h r with ⟨t, ht⟩ | hnone
      · simp only [render, ht]
        exact Rendering.prepend_ne_pending ih
      · simp only [render, hnone]
        nofun

def RecordChange.IsPlain (c : RecordChange) : Prop :=
  ∀ i, c.before? = some i ∨ c.after? = some i → Values.IsPlain i.value

namespace Resolver

structure SendsIdentifiers (resolver : Resolver) : Prop where
  rules : ∀ rule ∈ resolver.rules, rule.strategy.ReadsIdentifier
  default : resolver.context.strategy.ReadsIdentifier
  drops : resolver.policy = .drop

/-- So does the resolver of a group that is deployed. -/
theorem sendsIdentifiers_forRecords (groupId : String) (records : List RecordChange)
    (source : ElementSource) :
    SendsIdentifiers
      { context := { LookupContext.forRecords groupId records with source := source } } where
  rules := by simp
  default := ⟨idField, rfl⟩
  drops := rfl

variable {resolver : Resolver} (h : resolver.SendsIdentifiers)
include h

theorem SendsIdentifiers.resolve_isFinal (field parentType : String) (r : Reference Element) :
    (resolver.resolve field parentType r).IsFinal := by
  have hstrategy := SerializationRule.getD_strategyFor? h.rules h.default field parentType
  exact resolver.context.resolveWith_isFinal hstrategy r

theorem SendsIdentifiers.unresolved_eq_none (v : Value Element) : resolver.unresolved v = none := by
  rw [unresolved, h.drops]

theorem SendsIdentifiers.resolveLeaf_reference (parentType : String) (path : Path)
    (r : Reference Element) :
    resolver.resolveLeaf parentType path (.reference r) =
      (resolver.resolve path.fieldName parentType r).value? := by
  rcases h.resolve_isFinal path.fieldName parentType r with ⟨t, ht⟩ | hnone
  · simp only [resolveLeaf, ht]
    rfl
  · simp only [resolveLeaf, hnone, h.unresolved_eq_none]
    rfl

theorem SendsIdentifiers.get?_resolveInstance_of_reference {i : Instance Element} {key : String}
    {r : Reference Element} (hkeys : (Assoc.keys i.value).Nodup)
    (hr : i.get? key = some (.reference r)) :
    (resolver.resolveInstance i).get? key =
      (resolver.resolve (Path.fieldName [key]) i.typeName r).value? :=
  (resolver.get?_resolveInstance_of_leaf hkeys (l := .reference r) hr).trans
    (h.resolveLeaf_reference i.typeName [key] r)

theorem SendsIdentifiers.givesScalars_resolveLeaf (parentType : String) :
    Value.GivesScalars (resolver.resolveLeaf parentType) := by
  intro path l v hv
  cases l with
  | scalar s => exact ⟨s, (Option.some.inj hv).symm⟩
  | reference r =>
    rw [h.resolveLeaf_reference] at hv
    rcases h.resolve_isFinal path.fieldName parentType r with ⟨t, ht⟩ | hnone
    · rw [ht] at hv
      exact ⟨t, (Option.some.inj hv).symm⟩
    · rw [hnone] at hv
      cases hv
  | template t =>
    have hrender := Template.render_ne_pending
      (h.resolve_isFinal path.fieldName parentType) t.parts
    simp only [resolveLeaf] at hv
    cases hr : Template.render (resolver.resolve path.fieldName parentType) t.parts with
    | text s =>
      simp only [hr] at hv
      exact ⟨.text s, (Option.some.inj hv).symm⟩
    | pending => exact absurd hr hrender
    | unresolved =>
      simp only [hr, h.unresolved_eq_none] at hv
      cases hv

theorem SendsIdentifiers.isPlain_resolveInstance (i : Instance Element) :
    Values.IsPlain (resolver.resolveInstance i).value :=
  Values.isPlain_mapLeaves (h.givesScalars_resolveLeaf i.typeName) i.value

theorem SendsIdentifiers.isPlain_resolveChange (c : RecordChange) :
    RecordChange.IsPlain (resolver.resolveChange c) := by
  intro i hi
  cases c with
  | addition a =>
    rcases hi with hi | hi
    · cases hi
    · cases hi
      exact h.isPlain_resolveInstance a
  | removal b =>
    rcases hi with hi | hi
    · cases hi
      exact h.isPlain_resolveInstance b
    · cases hi
  | modification b a =>
    rcases hi with hi | hi
    · cases hi
      exact h.isPlain_resolveInstance b
    · cases hi
      exact h.isPlain_resolveInstance a

end Resolver

end ElementSync
