import ElementSync.Proofs.Reference.Fields
import Mathlib.Data.List.Perm.Basic

/-!
# What becomes of a template

A template becomes text when all its references resolve to scalars. Otherwise the first reference
that does not resolve to a scalar decides about it. So the order of the parts matters when one
reference is unresolved and another one is pending.
-/

namespace ElementSync

namespace Resolution

def scalar? (r : Resolution) : Option Scalar := r.value?.bind Value.scalar?

/-- Neither unresolved nor a scalar: deferred, or resolved to a whole tree. -/
def isPending : Resolution → Bool
  | resolved v => v.scalar?.isNone
  | deferred _ => true
  | unresolved => false

theorem scalar?_eq_none_iff {r : Resolution} :
    r.scalar? = none ↔ r.isUnresolved ∨ r.isPending := by
  cases r with
  | resolved v => simp [scalar?, value?, isUnresolved, isPending]
  | deferred e => simp [scalar?, value?, isPending]
  | unresolved => simp [scalar?, value?, isUnresolved]

theorem not_isUnresolved_of_isPending {r : Resolution} (h : r.isPending) : ¬ r.isUnresolved := by
  cases r with
  | resolved v => nofun
  | deferred e => nofun
  | unresolved => cases h

end Resolution

namespace Template

def Part.written {η : Type} (f : Reference η → String) : Part η → String
  | .literal s => s
  | .reference r => f r

def written {η : Type} (f : Reference η → String) (t : Template η) : String :=
  String.join (t.parts.map (Part.written f))

theorem references_perm {η : Type} {t u : Template η} (h : t.parts.Perm u.parts) :
    t.references.Perm u.references :=
  h.filterMap _

variable (resolve : Reference Element → Resolution)

def firstOpen? (t : Template Element) : Option (Reference Element) :=
  t.references.find? fun r => (resolve r).scalar?.isNone

def scalarText (r : Reference Element) : String := ((resolve r).scalar?.map Scalar.render).getD ""

theorem render_reference (r : Reference Element) (ps : List (Part Element)) :
    render resolve (.reference r :: ps) =
      (resolve r).scalar?.elim (if (resolve r).isUnresolved then .unresolved else .pending)
        fun s => (render resolve ps).prepend s.render := by
  rw [render]
  cases resolve r with
  | resolved v => cases v <;> rfl
  | deferred e => rfl
  | unresolved => rfl

theorem render_eq_of_firstOpen? (t : Template Element) :
    render resolve t.parts =
      (t.firstOpen? resolve).elim (.text (t.written (scalarText resolve))) fun r =>
        if (resolve r).isUnresolved then .unresolved else .pending := by
  obtain ⟨ps⟩ := t
  induction ps with
  | nil => rfl
  | cons p ps ih =>
    -- Text in front does not change which reference is the first.
    have hprepend : ∀ s, (render resolve ps).prepend s =
        (firstOpen? resolve ⟨ps⟩).elim
          (.text (s ++ written (scalarText resolve) ⟨ps⟩)) fun r =>
            if (resolve r).isUnresolved then .unresolved else .pending := by
      intro s
      rw [ih]
      cases firstOpen? resolve ⟨ps⟩ with
      | none => rfl
      | some r => rw [Option.elim_some, Option.elim_some]; split <;> rfl
    have hwritten : written (scalarText resolve) ⟨p :: ps⟩ =
        p.written (scalarText resolve) ++ written (scalarText resolve) ⟨ps⟩ := String.join_cons
    rw [hwritten]
    cases p with
    | literal s => exact hprepend s
    | reference r =>
      have hfirst : firstOpen? resolve ⟨.reference r :: ps⟩ =
          if (resolve r).scalar?.isNone then some r else firstOpen? resolve ⟨ps⟩ := by
        change (r :: references ⟨ps⟩).find? _ = _
        rw [List.find?_cons]
        cases (resolve r).scalar?.isNone <;> rfl
      rw [hfirst, render_reference]
      cases hs : (resolve r).scalar? with
      | none => rfl
      | some s =>
        have htext : (Part.reference r).written (scalarText resolve) = s.render := by
          rw [Part.written, scalarText, hs]
          rfl
        rw [htext]
        exact hprepend s.render

theorem firstOpen?_eq_none_iff {t : Template Element} :
    t.firstOpen? resolve = none ↔ ∀ r ∈ t.references, (resolve r).scalar?.isSome := by
  simp [firstOpen?, List.find?_eq_none, Option.isSome_iff_ne_none]

theorem exists_firstOpen? {t : Template Element} {r : Reference Element} (hr : r ∈ t.references)
    (hopen : (resolve r).scalar? = none) :
    ∃ q, t.firstOpen? resolve = some q ∧ ((resolve q).isUnresolved ∨ (resolve q).isPending) := by
  cases hfirst : t.firstOpen? resolve with
  | none =>
    have hscalar := (firstOpen?_eq_none_iff resolve).1 hfirst r hr
    rw [hopen] at hscalar
    cases hscalar
  | some q =>
    have hq : (resolve q).scalar?.isNone :=
      List.find?_some (p := fun r => (resolve r).scalar?.isNone) hfirst
    exact ⟨q, rfl, Resolution.scalar?_eq_none_iff.1 (Option.isNone_iff_eq_none.1 hq)⟩

theorem written_scalarText {t : Template Element} {scalar : Reference Element → Scalar}
    (h : ∀ r ∈ t.references, resolve r = .resolved (.scalar (scalar r))) :
    t.written (scalarText resolve) = t.written fun r => (scalar r).render := by
  have hparts : ∀ p ∈ t.parts,
      p.written (scalarText resolve) = p.written fun r => (scalar r).render := by
    intro p hp
    cases p with
    | literal s => rfl
    | reference r =>
      have hr : r ∈ t.references := List.mem_filterMap.2 ⟨.reference r, hp, rfl⟩
      rw [Part.written, Part.written, scalarText, h r hr]
      rfl
  rw [written, written, List.map_congr_left hparts]

end Template

namespace Resolver
variable (resolver : Resolver)

/-- What is left of a template whose first reference without a scalar is resolved so. -/
def settle (t : Template Element) (r : Resolution) : Option (Value Element) :=
  if r.isUnresolved then resolver.unresolved (.template t) else some (.template t)

theorem resolveLeaf_template (parentType : String) (path : Path) (t : Template Element) :
    let resolution := resolver.resolve path.fieldName parentType
    resolver.resolveLeaf parentType path (.template t) =
      (t.firstOpen? resolution).elim (some (.text (t.written (Template.scalarText resolution))))
        fun r => resolver.settle t (resolution r) := by
  intro resolution
  rw [resolveLeaf, Template.render_eq_of_firstOpen?]
  cases t.firstOpen? resolution with
  | none => rfl
  | some r =>
    rw [Option.elim_some, Option.elim_some, settle]
    cases (resolution r).isUnresolved <;> rfl

/-- Whether a value is a template; nothing for nothing. -/
def fate (v : Option (Value Element)) : Option Bool := v.map (·.template?.isSome)

/-- When all references without a scalar have the same say, it does not matter which is first. -/
theorem fate_resolveLeaf {parentType : String} {path : Path} {t : Template Element}
    {d : Option Bool} (h : ∀ r ∈ t.references,
      (resolver.resolve path.fieldName parentType r).scalar? = none →
        fate (resolver.settle t (resolver.resolve path.fieldName parentType r)) = d) :
    fate (resolver.resolveLeaf parentType path (.template t)) =
      if ∀ r ∈ t.references, (resolver.resolve path.fieldName parentType r).scalar?.isSome then
        some false else d := by
  rw [resolveLeaf_template]
  cases hfirst : t.firstOpen? (resolver.resolve path.fieldName parentType) with
  | none =>
    rw [if_pos ((Template.firstOpen?_eq_none_iff _).1 hfirst)]
    rfl
  | some r =>
    have hopen : (resolver.resolve path.fieldName parentType r).scalar? = none := by
      simpa using List.find?_some hfirst
    rw [if_neg fun hall => by simp [(Template.firstOpen?_eq_none_iff _).2 hall] at hfirst]
    exact h r (List.mem_of_find?_eq_some hfirst) hopen

theorem unresolved_of_keep {resolver : Resolver} (h : resolver.policy = .keep)
    (v : Value Element) : resolver.unresolved v = some v := by
  rw [unresolved, h]

/-- Under a policy that keeps, or without a reference of one of the two kinds that are no scalars,
all references without a scalar have the same say. -/
theorem exists_fate (ls : List Resolution) (h : resolver.policy = .keep ∨
      (∀ r ∈ ls, ¬ r.isUnresolved) ∨ ∀ r ∈ ls, ¬ r.isPending) :
    ∃ d, ∀ t, ∀ r ∈ ls, r.scalar? = none → fate (resolver.settle t r) = d := by
  rcases h with hkeep | hnone | hnone
  · refine ⟨some true, fun t r _ _ => ?_⟩
    rw [settle, unresolved_of_keep hkeep]
    split <;> rfl
  · refine ⟨some true, fun t r hr _ => ?_⟩
    rw [settle, if_neg (hnone r hr)]
    rfl
  · refine ⟨if resolver.policy = .drop then none else some true, fun t r hr hopen => ?_⟩
    have hunresolved : r.isUnresolved :=
      (Resolution.scalar?_eq_none_iff.1 hopen).resolve_right (hnone r hr)
    rw [settle, if_pos hunresolved, unresolved]
    cases resolver.policy <;> rfl

theorem fate_resolveLeaf_perm {parentType : String} {path : Path} {t u : Template Element}
    (hparts : t.parts.Perm u.parts)
    (h : let resolution := resolver.resolve path.fieldName parentType
      resolver.policy = .keep ∨ (∀ r ∈ t.references, ¬ (resolution r).isUnresolved) ∨
        ∀ r ∈ t.references, ¬ (resolution r).isPending) :
    fate (resolver.resolveLeaf parentType path (.template u)) =
      fate (resolver.resolveLeaf parentType path (.template t)) := by
  let resolution := resolver.resolve path.fieldName parentType
  have hmem : ∀ r, r ∈ u.references ↔ r ∈ t.references := fun r =>
    (Template.references_perm hparts).mem_iff.symm
  obtain ⟨d, hd⟩ := resolver.exists_fate (t.references.map resolution)
    (by simpa only [List.forall_mem_map] using h)
  have hsay : ∀ v, ∀ r ∈ t.references, (resolution r).scalar? = none →
      fate (resolver.settle v (resolution r)) = d := fun v r hr =>
    hd v (resolution r) (List.mem_map_of_mem hr)
  rw [resolver.fate_resolveLeaf (hsay t),
    resolver.fate_resolveLeaf fun r hr => hsay u r ((hmem r).1 hr)]
  simp only [hmem]

/-- A template at any depth becomes text when all its references resolve to scalars. It follows the
policy when one of them is unresolved, unless a pending one comes first. Then it is kept, as it is
when some are pending and none is unresolved. The order of the parts does not matter for its fate
under a policy that keeps, nor when its references are not of both kinds. -/
theorem resolveInstance_template {i : Instance Element} {s : Surroundings Element}
    {t : Template Element} (h : .mapping i.value = s.fill (.template t)) :
    let resolution := resolver.resolve (Path.fieldName s.keys) i.typeName
    let first := (t.firstOpen? resolution).map resolution
    let outcome u := resolver.resolveLeaf i.typeName s.path (.template u)
    some (.mapping (resolver.resolveInstance i).value) =
        (s.mapLeaves (resolver.resolveLeaf i.typeName) []).fill? (outcome t) ∧
      (∀ scalar : Reference Element → Scalar,
        (∀ r ∈ t.references, resolution r = .resolved (.scalar (scalar r))) →
          outcome t = some (.text (t.written fun r => (scalar r).render))) ∧
      ((∃ r ∈ t.references, (resolution r).isUnresolved) →
        resolver.policy = .keep ∨ ¬ first.any Resolution.isPending →
          outcome t = resolver.unresolved (.template t)) ∧
      ((∃ r ∈ t.references, (resolution r).isPending) →
        (∀ r ∈ t.references, ¬ (resolution r).isUnresolved) ∨ first.any Resolution.isPending →
          outcome t = some (.template t)) ∧
      ∀ u : Template Element, t.parts.Perm u.parts →
        resolver.policy = .keep ∨ (∀ r ∈ t.references, ¬ (resolution r).isUnresolved) ∨
            (∀ r ∈ t.references, ¬ (resolution r).isPending) →
          fate (outcome u) = fate (outcome t) := by
  intro resolution first outcome
  have houtcome : outcome t = (t.firstOpen? resolution).elim
      (some (.text (t.written (Template.scalarText resolution))))
      fun r => resolver.settle t (resolution r) := by
    have hleaf := resolver.resolveLeaf_template i.typeName s.path t
    rwa [s.fieldName_path] at hleaf
  refine ⟨resolver.resolveInstance_fill (l := .template t) h, ?_, ?_, ?_, ?_⟩
  · intro scalar hscalar
    have hnone : t.firstOpen? resolution = none := by
      rw [Template.firstOpen?_eq_none_iff]
      intro r hr
      rw [hscalar r hr]
      rfl
    rw [houtcome, hnone, Option.elim_none, Template.written_scalarText resolution hscalar]
  · rintro ⟨r, hr, hunresolved⟩ hfirst
    obtain ⟨q, hq, hkind⟩ := Template.exists_firstOpen? resolution hr
      (Resolution.scalar?_eq_none_iff.2 (.inl hunresolved))
    rw [houtcome, hq, Option.elim_some, settle]
    rcases hkind with hkind | hkind
    · rw [if_pos hkind]
    · have hkeep := hfirst.resolve_right fun hpending => hpending (by simpa [first, hq] using hkind)
      rw [if_neg (Resolution.not_isUnresolved_of_isPending hkind), unresolved_of_keep hkeep]
  · rintro ⟨r, hr, hpending⟩ hfirst
    obtain ⟨q, hq, -⟩ := Template.exists_firstOpen? resolution hr
      (Resolution.scalar?_eq_none_iff.2 (.inr hpending))
    have hkept : ¬ (resolution q).isUnresolved := by
      rcases hfirst with hnone | hfirst
      · exact hnone q (List.mem_of_find?_eq_some hq)
      · exact Resolution.not_isUnresolved_of_isPending (by simpa [first, hq] using hfirst)
    rw [houtcome, hq, Option.elim_some, settle, if_neg hkept]
  · intro u hparts hkinds
    exact resolver.fate_resolveLeaf_perm hparts (by rwa [s.fieldName_path])

/-- A product of the group, which is deferred when it is asked for its name. -/
def nut : Instance Element := product "Nut" []

def toNut : Reference Element := .ofElement (.inst nut)

def toWasher : Reference Element := { target := .inst "salesforce" "Product2" "Washer" }

def naming : Resolver where
  context := .forGroup "add_Product2_instances" [.addition (.inst nut)]
  rules := [byName "Notes"]

def seeBolt : Template Element := ⟨[.literal "see ", .reference toBolt]⟩

def washerOrNut : Template Element := ⟨[.reference toWasher, .literal " or ", .reference toNut]⟩

def nutOrWasher : Template Element := ⟨[.reference toNut, .literal " or ", .reference toWasher]⟩

/-- Of two notes in a list one is rendered. The other one begins with an unresolved reference and
goes. -/
theorem resolveInstance_template_notes :
    let i := quote [("Notes", .sequence [.template seeBolt, .template washerOrNut])]
    let s : Surroundings Element := .entry [] "Notes" (.item [] .here [.template washerOrNut]) []
    let s' : Surroundings Element := .entry [] "Notes" (.item [.template seeBolt] .here []) []
    .mapping i.value = s.fill (.template seeBolt) ∧
      .mapping i.value = s'.fill (.template washerOrNut) ∧
      naming.resolveLeaf i.typeName s.path (.template seeBolt) = some (.text "see Bolt") ∧
      naming.resolveLeaf i.typeName s'.path (.template washerOrNut) = none ∧
      some (.mapping (naming.resolveInstance i).value) =
        some (Value.mapping [("Notes", .sequence [.text "see Bolt"])]) := by
  intro i s s'
  have h : .mapping i.value = s.fill (.template seeBolt) := rfl
  have h' : .mapping i.value = s'.fill (.template washerOrNut) := rfl
  obtain ⟨-, htext, -⟩ := naming.resolveInstance_template h
  obtain ⟨hplace, -, hpolicy, -⟩ := naming.resolveInstance_template h'
  refine ⟨h, h', htext (fun _ => .text "Bolt") ?_, ?_, hplace⟩
  · intro r hr
    obtain rfl := List.mem_singleton.1 hr
    rfl
  · exact hpolicy ⟨toWasher, List.mem_cons_self, rfl⟩ (.inr (by nofun))

/-- One of the references is unresolved, but the other one is deferred and comes first. So the
template is kept, although the policy drops it in the other order. -/
theorem kept_with_unresolved_reference :
    let resolution := naming.resolve "Notes" "Quote"
    naming.policy = .drop ∧ toWasher ∈ nutOrWasher.references ∧
      (resolution toWasher).isUnresolved ∧ nutOrWasher.parts.Perm washerOrNut.parts ∧
      (naming.resolveInstance (quote [("Notes", .template nutOrWasher)])).value =
        [("Notes", .template nutOrWasher)] ∧
      (naming.resolveInstance (quote [("Notes", .template washerOrNut)])).value = [] := by
  intro resolution
  exact ⟨rfl, List.mem_cons_of_mem _ List.mem_cons_self, rfl,
    List.reverse_perm washerOrNut.parts, rfl, rfl⟩

end Resolver

end ElementSync
