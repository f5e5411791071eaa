import ElementSync.Proofs.Reference.Identifiers
import ElementSync.Proofs.Reference.Templates

/-!
# Resolving twice

Dropping an item shifts the items behind it, but not out of their field, so every leaf is resolved
with the same strategy again. Identifiers and names are scalars, which stay. A live element of the
group is found again, and what was kept without a value is kept again.
-/

namespace ElementSync

namespace Value
variable {η : Type} {f : Path → Leaf η → Option (Value η)}

/-- What comes in the place of a leaf stays as it is under every path to the same field. -/
def Settles (f : Path → Leaf η → Option (Value η)) : Prop :=
  ∀ p q l w, p.fieldName = q.fieldName → f p l = some w → mapLeavesM (m := Id) f q w = some w

mutual
theorem mapLeavesM_of_settles (hf : Settles f) {p q : Path} (hpq : p.fieldName = q.fieldName)
    (v w : Value η) (h : mapLeavesM (m := Id) f p v = some w) :
    mapLeavesM (m := Id) f q w = some w := by
  cases v with
  | scalar s => exact hf p q (.scalar s) w hpq (by rwa [mapLeavesM] at h)
  | reference r => exact hf p q (.reference r) w hpq (by rwa [mapLeavesM] at h)
  | template t => exact hf p q (.template t) w hpq (by rwa [mapLeavesM] at h)
  | mapping es =>
    rw [mapLeavesM] at h
    cases h
    rw [mapLeavesM]
    exact congrArg (fun es => some (mapping es)) (mapEntries_of_settles hf hpq es)
  | sequence vs =>
    rw [mapLeavesM] at h
    cases h
    rw [mapLeavesM]
    exact congrArg (fun vs => some (sequence vs)) (mapItems_of_settles hf hpq 0 0 vs)

theorem mapEntries_of_settles (hf : Settles f) {p q : Path} (hpq : p.fieldName = q.fieldName)
    (es : List (String × Value η)) :
    Values.mapEntries f q (Values.mapEntries f p es) = Values.mapEntries f p es := by
  cases es with
  | nil => rw [Values.mapEntries_nil, Values.mapEntries_nil]
  | cons e es =>
    have hkey : Path.fieldName (p ++ [e.1]) = Path.fieldName (q ++ [e.1]) := by
      rw [Path.fieldName_concat, Path.fieldName_concat, hpq]
    have hrest := mapEntries_of_settles hf hpq es
    rw [Values.mapEntries_cons]
    cases hw : mapLeavesM (m := Id) f (p ++ [e.1]) e.2 with
    | none => exact hrest
    | some w =>
      rw [Option.elim_some, Values.mapEntries_cons, mapLeavesM_of_settles hf hkey e.2 w hw, hrest]
      rfl

/- The positions differ as soon as an item is dropped. -/
theorem mapItems_of_settles (hf : Settles f) {p q : Path} (hpq : p.fieldName = q.fieldName)
    (i j : UInt64) (vs : List (Value η)) :
    mapItems f q j (mapItems f p i vs) = mapItems f p i vs := by
  cases vs with
  | nil => rw [mapItems_nil, mapItems_nil]
  | cons v vs =>
    have hposition : Path.fieldName (p ++ [toString i]) = Path.fieldName (q ++ [toString j]) := by
      rw [Path.fieldName_position, Path.fieldName_position, hpq]
    rw [mapItems_cons]
    cases hw : mapLeavesM (m := Id) f (p ++ [toString i]) v with
    | none => exact mapItems_of_settles hf hpq (i + 1) j vs
    | some w =>
      rw [Option.elim_some, mapItems_cons, mapLeavesM_of_settles hf hposition v w hw,
        mapItems_of_settles hf hpq (i + 1) (j + 1) vs]
      rfl
end

end Value

def Strategy.GivesName (s : Strategy) : Prop := s.ReadsIdentifier ∨ s = .apiName

theorem Strategy.GivesName.exists_scalar {s : Strategy} (hs : s.GivesName) {e : Element}
    {v : Value Element} (h : s.serialize e = some v) : ∃ t, v = .scalar t := by
  rcases hs with hs | rfl
  · exact hs.exists_scalar h
  · obtain ⟨name, -, rfl⟩ := Option.map_eq_some_iff.1 h
    exact ⟨.text name, rfl⟩

namespace LookupContext
variable {c : LookupContext} {s : Strategy} {r : Reference Element}

/-- The live element that a reference is deferred to is deferred to itself. -/
theorem resolveWith_ofElement {e : Element} (h : c.resolveWith s r = .deferred e) :
    c.resolveWith s (.ofElement e) = .deferred e := by
  obtain ⟨hgroup, hmember, hs⟩ := resolveWith_eq_deferred_iff.1 h
  have hid := (mem_of_member? hmember).2
  refine resolveWith_eq_deferred_iff.2 ⟨hgroup, ?_, hs⟩
  rw [Reference.ofElement, hid, hmember]

end LookupContext

namespace Resolver

structure AsksForNames (resolver : Resolver) : Prop where
  rules : ∀ rule ∈ resolver.rules, rule.strategy.GivesName
  default : resolver.context.strategy.GivesName

variable {resolver : Resolver}

theorem unresolved_eq_some {v w : Value Element} (h : resolver.unresolved v = some w) : w = v := by
  rw [unresolved] at h
  cases hpolicy : resolver.policy with
  | drop => rw [hpolicy] at h; cases h
  | keep => rw [hpolicy] at h; exact (Option.some.inj h).symm

/-- A leaf is only looked at in its field. -/
theorem resolveLeaf_congr {p q : Path} (hpq : p.fieldName = q.fieldName) (parentType : String)
    (l : Leaf Element) :
    resolver.resolveLeaf parentType p l = resolver.resolveLeaf parentType q l := by
  cases l with
  | scalar s => rfl
  | reference r => rw [resolveLeaf, resolveLeaf, hpq]
  | template t => rw [resolveLeaf, resolveLeaf, hpq]

theorem AsksForNames.strategy (h : resolver.AsksForNames) (field parentType : String) :
    ((SerializationRule.strategyFor? resolver.rules field parentType).getD
      resolver.context.strategy).GivesName :=
  SerializationRule.getD_strategyFor? h.rules h.default field parentType

/-- A leaf gives way to a scalar or to a live element, or stays. -/
theorem AsksForNames.resolveLeaf_cases (h : resolver.AsksForNames) {parentType : String}
    {p : Path} {l : Leaf Element} {w : Value Element}
    (hw : resolver.resolveLeaf parentType p l = some w) :
    (∃ s, w = .scalar s) ∨ w = l.value ∨
      ∃ e, w = .reference (.ofElement e) ∧
        resolver.resolve p.fieldName parentType (.ofElement e) = .deferred e := by
  cases l with
  | scalar s => exact .inl ⟨s, (Option.some.inj hw).symm⟩
  | reference r =>
    rw [resolveLeaf_reference] at hw
    cases hr : resolver.resolve p.fieldName parentType r with
    | resolved v =>
      rw [hr] at hw
      cases hw
      obtain ⟨e, hserialize⟩ := LookupContext.exists_serialize_of_resolved hr
      exact .inl ((h.strategy p.fieldName parentType).exists_scalar hserialize)
    | deferred e =>
      rw [hr] at hw
      cases hw
      exact .inr (.inr ⟨e, rfl, LookupContext.resolveWith_ofElement hr⟩)
    | unresolved =>
      rw [hr] at hw
      exact .inr (.inl (unresolved_eq_some hw))
  | template t =>
    rw [resolveLeaf] at hw
    cases hr : Template.render (resolver.resolve p.fieldName parentType) t.parts with
    | text s =>
      simp only [hr] at hw
      exact .inl ⟨.text s, (Option.some.inj hw).symm⟩
    | pending =>
      simp only [hr] at hw
      exact .inr (.inl (Option.some.inj hw).symm)
    | unresolved =>
      simp only [hr] at hw
      exact .inr (.inl (unresolved_eq_some hw))

theorem AsksForNames.settles (h : resolver.AsksForNames) (parentType : String) :
    Value.Settles (resolver.resolveLeaf parentType) := by
  intro p q l w hpq hw
  rcases h.resolveLeaf_cases hw with ⟨s, rfl⟩ | rfl | ⟨e, rfl, he⟩
  · rw [Value.mapLeavesM]
    rfl
  · have hagain := (resolveLeaf_congr hpq parentType l).symm.trans hw
    cases l <;> rwa [Leaf.value, Value.mapLeavesM]
  · rw [Value.mapLeavesM]
    rw [hpq] at he
    rw [resolveLeaf_reference, he]
    rfl

/-- Resolving an instance that has been resolved changes nothing. Only the values of an instance are
touched at all. -/
theorem resolveInstance_idempotent (h : resolver.AsksForNames) (i : Instance Element) :
    resolver.resolveInstance (resolver.resolveInstance i) = resolver.resolveInstance i ∧
      (resolver.resolveInstance i).id = i.id ∧ (resolver.resolveInstance i).type = i.type ∧
      (resolver.resolveInstance i).annotations = i.annotations ∧
      (resolver.resolveInstance i).path = i.path := by
  refine ⟨?_, rfl, rfl, rfl, rfl⟩
  have hvalue := Value.mapEntries_of_settles (p := []) (q := []) (h.settles i.typeName) rfl i.value
  exact congrArg (fun vs => { i with value := vs }) hvalue

/-- The washer goes, so that the nut and the template behind it move up. -/
theorem resolveInstance_idempotent_notes :
    let notes : List (Value Element) := [.reference toNut, .mapping [("7", .template nutOrWasher)]]
    let i := quote [("Notes", .sequence (.reference toWasher :: notes)),
      ("Product", .reference toBolt)]
    naming.AsksForNames ∧
      (naming.resolveInstance i).value =
        [("Notes", .sequence notes), ("Product", .text "01tBolt")] ∧
      naming.resolveInstance (naming.resolveInstance i) = naming.resolveInstance i := by
  intro notes i
  have hasks : naming.AsksForNames :=
    { rules := fun rule hrule => by
        obtain rfl := List.mem_singleton.1 hrule
        exact .inr rfl
      default := .inl ⟨idField, rfl⟩ }
  exact ⟨hasks, rfl, (resolveInstance_idempotent hasks i).1⟩

end Resolver

end ElementSync
