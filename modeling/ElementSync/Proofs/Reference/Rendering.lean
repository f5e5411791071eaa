import ElementSync.Proofs.ConditionLogic.Packing
import ElementSync.Proofs.Reference.Identifiers
import Mathlib.Data.List.Forall2

/-!
# What templates are rendered to

Packing and resolving both replace the references of a template by text and give up when one has
none. They differ in the text: packing writes positions, a resolver that asks for identifiers
writes these. Either way, templates that are the same read the same where their references do.
-/

namespace ElementSync

namespace Template
variable {η : Type} (f : Reference η → Option String)

def textWith (t : Template η) : Option String := go t.parts
where
  go : List (Part η) → Option String
    | [] => some ""
    | .literal s :: ps => (go ps).map (s ++ ·)
    | .reference r :: ps => (f r).bind fun u => (go ps).map (u ++ ·)

theorem isSome_textWith_iff (t : Template η) :
    (t.textWith f).isSome ↔ ∀ r ∈ t.references, (f r).isSome := by
  obtain ⟨ps⟩ := t
  change (textWith.go f ps).isSome ↔ ∀ r ∈ (⟨ps⟩ : Template η).references, (f r).isSome
  induction ps with
  | nil => simp [textWith.go]
  | cons p ps ih =>
    cases p with
    | literal s => simpa [textWith.go] using ih
    | reference r => cases hr : f r <;> simp [textWith.go, hr, ih]

end Template

theorem ConditionLogic.toOption_pack (position : Reference Element → Option Int)
    (t : Template Element) :
    (pack position t).toOption = t.textWith fun r => (position r).map toString := by
  obtain ⟨ps⟩ := t
  change (packParts position ps).toOption =
    Template.textWith.go (fun r => (position r).map toString) ps
  induction ps with
  | nil => rfl
  | cons p ps ih =>
    cases p with
    | literal s =>
      rw [packParts_literal_cons, Template.textWith.go, ← ih]
      cases packParts position ps <;> rfl
    | reference r =>
      cases hr : position r with
      | none => simp [packParts, Template.textWith.go, hr, Except.toOption]
      | some n =>
        rw [packParts_reference_cons position hr, Template.textWith.go, hr, ← ih]
        cases packParts position ps <;> rfl

def Resolution.text? (r : Resolution) : Option String :=
  (r.value?.bind Value.scalar?).map Scalar.render

/-- Without a reference that has to wait, a template becomes text or nothing. -/
theorem Template.render_eq {resolve : Reference Element → Resolution}
    (h : ∀ r, (resolve r).IsFinal) (t : Template Element) :
    render resolve t.parts = (t.textWith fun r => (resolve r).text?).elim .unresolved .text := by
  obtain ⟨ps⟩ := t
  change render resolve ps = (textWith.go (fun r => (resolve r).text?) ps).elim .unresolved .text
  induction ps with
  | nil => rfl
  | cons p ps ih =>
    cases p with
    | literal s =>
      rw [render, ih, textWith.go]
      cases textWith.go (fun r => (resolve r).text?) ps <;> rfl
    | reference r =>
      rcases h r with ⟨t, ht⟩ | hnone
      · simp only [render, ht, ih, textWith.go]
        cases textWith.go (fun r => (resolve r).text?) ps <;> rfl
      · simp only [render, hnone, textWith.go]
        rfl

/-- An identifier is known of an element outside the group only, and inside the group of all
metadata of none. -/
theorem LookupContext.value?_resolveWith_eq (c : LookupContext) {s : Strategy}
    (hs : s.isIdentifier) (r : Reference Element) :
    (c.resolveWith s r).value? =
      if c.group = c.metadataGroup ∨ (c.member? r.target).isSome then none
      else (r.handle.or (c.source r.target)).bind s.serialize := by
  by_cases hgroup : c.group = c.metadataGroup
  · rw [if_pos (.inl hgroup), resolveWith_of_metadata hgroup]
    rfl
  · cases hmember : c.member? r.target with
    | none =>
      rw [value?_resolveWith hgroup hmember]
      simp [hgroup]
    | some live =>
      rw [resolveWith_of_member hgroup hmember, if_pos hs]
      simp [Resolution.value?]

namespace Resolver.SendsIdentifiers
variable {resolver : Resolver} (h : resolver.SendsIdentifiers)
include h

theorem resolveLeaf_template (parentType : String) (path : Path) (t : Template Element) :
    resolver.resolveLeaf parentType path (.template t) =
      (t.textWith fun r => (resolver.resolve path.fieldName parentType r).text?).map .text := by
  simp only [resolveLeaf, Template.render_eq (h.resolve_isFinal path.fieldName parentType)]
  cases t.textWith fun r => (resolver.resolve path.fieldName parentType r).text? with
  | none => exact h.unresolved_eq_none _
  | some s => rfl

theorem get?_resolveInstance_of_template {i : Instance Element} {key : String}
    {t : Template Element} (hkeys : (Assoc.keys i.value).Nodup)
    (ht : i.get? key = some (.template t)) :
    (resolver.resolveInstance i).get? key =
      (t.textWith fun r =>
        (resolver.resolve (Path.fieldName [key]) i.typeName r).text?).map .text :=
  (resolver.get?_resolveInstance_of_leaf hkeys (l := .template t) ht).trans
    (h.resolveLeaf_template i.typeName [key] t)

end Resolver.SendsIdentifiers

/-! ### What reads the same -/

theorem Binary64.exponentField_of_isZero {x : Binary64} (h : x.isZero) : x.exponentField = 0 := by
  simp only [isZero, decide_eq_true_eq, Nat.pow_eq] at h
  simp only [exponentField, Nat.pow_eq]
  omega

theorem Binary64.fraction_of_isZero {x : Binary64} (h : x.isZero) : x.fraction = 0 := by
  simp only [isZero, decide_eq_true_eq, Nat.pow_eq] at h
  simp only [fraction, Nat.pow_eq]
  omega

theorem Scalar.render_of_isZero {x : Binary64} (h : x.isZero) : (Scalar.float x).render = "0" := by
  have hexp := Binary64.exponentField_of_isZero h
  have hfrac := Binary64.fraction_of_isZero h
  have hratio : x.ratio.1 = 0 := by
    rw [Binary64.ratio, Binary64.significand, hexp, if_pos rfl, hfrac]
    split
    · exact Nat.zero_mul _
    · rfl
  have hint : x.isIntegral := by simp [Binary64.isIntegral, Binary64.isFinite, hexp, hratio]
  have htrunc : x.truncate = 0 := by simp [Binary64.truncate, hratio]
  have hsmall : (0 : Int).natAbs < Nat.pow 10 15 := by decide
  rw [render, hint, htrunc, decide_eq_true hsmall]
  rfl

theorem Scalar.render_eq_of_same {s t : Scalar} (h : s.same t) : s.render = t.render := by
  cases s with
  | float x =>
    cases t with
    | float y =>
      simp only [same, Binary64.same, Bool.and_eq_true, Bool.or_eq_true, decide_eq_true_eq] at h
      rcases h.2 with hbits | ⟨hx, hy⟩
      · have hxy : x = y := by cases x; cases y; cases hbits; rfl
        rw [hxy]
      · rw [render_of_isZero hx, render_of_isZero hy]
    | _ => simp [same] at h
  | _ => rw [of_decide_eq_true h]

/-- Templates that are the same read the same, if their references do one by one. -/
theorem Template.textWith_eq_of_same {η : Type} {f : Reference η → Option String}
    {t u : Template η} (h : t.same u)
    (hreferences : List.Forall₂ (fun r q => f r = f q) t.references u.references) :
    t.textWith f = u.textWith f := by
  obtain ⟨ps⟩ := t
  obtain ⟨qs⟩ := u
  change same.go ps qs at h
  change textWith.go f ps = textWith.go f qs
  induction ps generalizing qs with
  | nil =>
    cases qs with
    | nil => rfl
    | cons q qs => cases h
  | cons p ps ih =>
    cases qs with
    | nil => cases h
    | cons q qs =>
      rw [same.go, Bool.and_eq_true] at h
      cases p with
      | literal s =>
        cases q with
        | literal s' =>
          obtain rfl : s = s' := of_decide_eq_true h.1
          rw [textWith.go, textWith.go, ih qs hreferences h.2]
        | reference r => cases h.1
      | reference r =>
        cases q with
        | literal s => cases h.1
        | reference r' =>
          obtain ⟨hfirst, hrest⟩ := List.forall₂_cons.1 hreferences
          rw [textWith.go, textWith.go, hfirst, ih qs hrest h.2]

end ElementSync
