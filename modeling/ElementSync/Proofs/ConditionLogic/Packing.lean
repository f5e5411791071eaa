import ElementSync.ConditionLogic.Codec

/-!
# Packing and the normal form of templates

Packing reads the parts of a template one after the other. Whatever is read so that literals may be
joined, the references and the text that packing gives among it, is the same in normal form.
-/

namespace ElementSync

namespace Template
variable {η : Type}

/-- A literal is joined to a literal behind it. -/
theorem prepend_literal_cases {s : String} (hs : s ≠ "") (ps : List (Part η)) :
    (∃ t qs, ps = .literal t :: qs ∧ prepend (.literal s) ps = .literal (s ++ t) :: qs) ∨
      prepend (.literal s) ps = .literal s :: ps := by
  cases ps with
  | nil => exact .inr (by simp [prepend, hs])
  | cons q ps =>
    cases q with
    | literal t => exact .inl ⟨t, ps, rfl, by simp [prepend, hs]⟩
    | reference r => exact .inr (by simp [prepend, hs])

/-- What is read off parts one after the other, without regard to where literals are parted. -/
structure IsReading {α : Type} (read : List (Part η) → α) (act : Part η → α → α) : Prop where
  cons : ∀ p ps, read (p :: ps) = act p (read ps)
  empty : ∀ a, act (.literal "") a = a
  join : ∀ s t a, act (.literal s) (act (.literal t) a) = act (.literal (s ++ t)) a

namespace IsReading
variable {α : Type} {read : List (Part η) → α} {act : Part η → α → α}

theorem read_prepend (h : IsReading read act) (p : Part η) (ps : List (Part η)) :
    read (prepend p ps) = act p (read ps) := by
  cases p with
  | reference r => exact h.cons _ _
  | literal s =>
    by_cases hs : s = ""
    · rw [hs, h.empty]
      simp [prepend]
    · rcases prepend_literal_cases hs ps with ⟨t, rest, rfl, hjoin⟩ | hcons
      · rw [hjoin, h.cons, h.cons, h.join]
      · rw [hcons, h.cons]

theorem read_normalize (h : IsReading read act) (ps : List (Part η)) :
    read (normalize ps) = read ps := by
  induction ps with
  | nil => rfl
  | cons p ps ih => rw [normalize, h.read_prepend, ih, h.cons]

end IsReading

@[simp] theorem references_nil : (⟨[]⟩ : Template η).references = [] := rfl

@[simp] theorem references_literal_cons (s : String) (ps : List (Part η)) :
    (⟨.literal s :: ps⟩ : Template η).references = (⟨ps⟩ : Template η).references := rfl

@[simp] theorem references_reference_cons (r : Reference η) (ps : List (Part η)) :
    (⟨.reference r :: ps⟩ : Template η).references = r :: (⟨ps⟩ : Template η).references := rfl

theorem isReading_references : IsReading (fun ps => (⟨ps⟩ : Template η).references)
    fun p rs => (⟨[p]⟩ : Template η).references ++ rs where
  cons p ps := by cases p <;> rfl
  empty rs := rfl
  join s t rs := rfl

theorem references_ofParts (ps : List (Part η)) :
    (ofParts ps).references = (⟨ps⟩ : Template η).references :=
  isReading_references.read_normalize ps

end Template

namespace ConditionLogic
variable (position : Reference Element → Option Int)

@[simp] theorem packParts_nil : packParts position [] = .ok "" := rfl

@[simp] theorem packParts_literal_cons (s : String) (ps : List (Template.Part Element)) :
    packParts position (.literal s :: ps) = (packParts position ps).map (s ++ ·) := by
  cases h : packParts position ps <;> simp [packParts, h] <;> rfl

theorem packParts_reference_cons {r : Reference Element} {n : Int} (h : position r = some n)
    (ps : List (Template.Part Element)) :
    packParts position (.reference r :: ps) =
      (packParts position ps).map (toString n ++ ·) := by
  cases hps : packParts position ps <;> simp [packParts, h, hps] <;> rfl

theorem isReading_packParts : Template.IsReading (packParts position)
    fun p text => (packParts position [p]).bind fun s => text.map (s ++ ·) where
  cons p ps := by
    cases p with
    | literal s => simp [Except.map, Except.bind]
    | reference r =>
      cases h : position r with
      | none => simp [packParts, h, Except.bind]
      | some n => simp [packParts_reference_cons position h, Except.map, Except.bind]
  empty text := by cases text <;> simp [Except.map, Except.bind]
  join s t text := by cases text <;> simp [Except.map, Except.bind, String.append_assoc]

/-- Normal form does not change the text. -/
theorem pack_ofParts (ps : List (Template.Part Element)) :
    pack position (.ofParts ps) = packParts position ps :=
  (isReading_packParts position).read_normalize ps

end ConditionLogic

end ElementSync
