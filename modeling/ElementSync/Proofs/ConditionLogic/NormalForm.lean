import ElementSync.Proofs.ConditionLogic.Packing
import ElementSync.Proofs.ConditionLogic.Renumbering

/-!
# Templates in normal form

What a template spells decides its normal form: a literal acts like its characters put in front one
by one, so the normal form can be read off characters and targets alone. Parts that were brought
into normal form before make no difference.
-/

namespace ElementSync

namespace Template
variable {η : Type} {ps qs : List (Part η)}

/-! ### The shape of the normal form -/

def Part.isLiteral : Part η → Bool
  | .literal _ => true
  | .reference _ => false

/-- No literal is empty and no two literals stand side by side. -/
structure IsNormal (ps : List (Part η)) : Prop where
  no_empty : .literal "" ∉ ps
  no_adjacent : ps.IsChain fun p q => ¬ (p.isLiteral ∧ q.isLiteral)

theorem isNormal_nil : IsNormal ([] : List (Part η)) := ⟨List.not_mem_nil, List.isChain_nil⟩

theorem isNormal_cons {p : Part η} : IsNormal (p :: ps) ↔
    p ≠ .literal "" ∧ (∀ q ∈ ps.head?, ¬ (p.isLiteral ∧ q.isLiteral)) ∧ IsNormal ps := by
  constructor
  · rintro ⟨hempty, hchain⟩
    obtain ⟨hhead, hchain⟩ := List.isChain_cons.1 hchain
    rw [List.mem_cons, not_or] at hempty
    exact ⟨Ne.symm hempty.1, hhead, hempty.2, hchain⟩
  · rintro ⟨hp, hhead, hempty, hchain⟩
    exact ⟨by simpa using ⟨Ne.symm hp, hempty⟩, List.isChain_cons.2 ⟨hhead, hchain⟩⟩

theorem isNormal_prepend (p : Part η) (h : IsNormal ps) : IsNormal (prepend p ps) := by
  cases p with
  | reference r => exact isNormal_cons.2 ⟨nofun, by simp [Part.isLiteral], h⟩
  | literal s =>
    by_cases hs : s = ""
    · simpa [prepend, hs] using h
    · cases ps with
      | nil =>
        have hcons : IsNormal [.literal s] := isNormal_cons.2 ⟨by simpa using hs, by simp, h⟩
        simpa [prepend, hs] using hcons
      | cons q ps =>
        cases q with
        | reference r =>
          have hcons : IsNormal (.literal s :: .reference r :: ps) :=
            isNormal_cons.2 ⟨by simpa using hs, by simp [Part.isLiteral], h⟩
          simpa [prepend, hs] using hcons
        | literal t =>
          obtain ⟨-, hhead, hrest⟩ := isNormal_cons.1 h
          have hcons : IsNormal (.literal (s ++ t) :: ps) :=
            isNormal_cons.2 ⟨by simp [hs], hhead, hrest⟩
          simpa [prepend, hs] using hcons

theorem isNormal_normalize (ps : List (Part η)) : IsNormal (normalize ps) := by
  induction ps with
  | nil => exact isNormal_nil
  | cons p ps ih => exact isNormal_prepend p ih

/-! ### Parts put in front one after the other -/

/-- Literals join. -/
theorem prepend_literal_prepend (s t : String) (ps : List (Part η)) :
    prepend (.literal s) (prepend (.literal t) ps) = prepend (.literal (s ++ t)) ps := by
  by_cases hs : s = ""
  · simp [prepend, hs]
  · by_cases ht : t = ""
    · simp [prepend, ht]
    · cases ps with
      | nil => simp [prepend, hs, ht]
      | cons q ps => cases q <;> simp [prepend, hs, ht, String.append_assoc]

theorem isReading_foldr_prepend (qs : List (Part η)) :
    IsReading (fun ps => ps.foldr prepend qs) prepend where
  cons _ _ := rfl
  empty ps := by simp [prepend]
  join := prepend_literal_prepend

theorem normalize_append (ps qs : List (Part η)) :
    normalize (ps ++ qs) = ps.foldr prepend (normalize qs) := by
  induction ps with
  | nil => rfl
  | cons p ps ih => rw [List.cons_append, normalize, ih, List.foldr_cons]

theorem normalize_append_normalize (ps qs : List (Part η)) :
    normalize (normalize ps ++ qs) = normalize (ps ++ qs) := by
  rw [normalize_append, normalize_append]
  exact (isReading_foldr_prepend (normalize qs)).read_normalize ps

theorem normalize_normalize (ps : List (Part η)) : normalize (normalize ps) = normalize ps := by
  simpa using normalize_append_normalize ps []

/-! ### The normal form read off the spelling -/

theorem spell_cons (p : Part η) (ps : List (Part η)) : spell (p :: ps) = p.spell ++ spell ps :=
  List.flatMap_cons

theorem isReading_spell : IsReading (spell (η := η)) fun p xs => p.spell ++ xs where
  cons := spell_cons
  empty _ := rfl
  join s t xs := by simp [Part.spell]

@[simp] theorem Part.spell_bare (p : Part η) : p.bare.spell = p.spell := by
  cases p <;> rfl

def Symbol.part : Symbol → Part η
  | .inl c => .literal (String.singleton c)
  | .inr id => .reference ⟨id, none⟩

/-- A literal acts like its characters put in front one by one. -/
theorem prepend_literal_ofList (cs : List Char) (ps : List (Part η)) :
    prepend (.literal (String.ofList cs)) ps =
      (cs.map Sum.inl).foldr (fun x => prepend (Symbol.part x)) ps := by
  induction cs with
  | nil => simp [prepend]
  | cons c cs ih =>
    have hcons : String.ofList (c :: cs) = String.singleton c ++ String.ofList cs := by
      apply String.toList_injective
      simp
    rw [hcons, ← prepend_literal_prepend, ih, List.map_cons, List.foldr_cons]
    rfl

theorem prepend_bare (p : Part η) (ps : List (Part η)) :
    prepend p.bare ps = p.spell.foldr (fun x => prepend (Symbol.part x)) ps := by
  cases p with
  | reference r => rfl
  | literal s => simpa [Part.bare, Part.spell] using prepend_literal_ofList s.toList ps

theorem normalize_map_bare (ps : List (Part η)) :
    normalize (ps.map Part.bare) = (spell ps).foldr (fun x => prepend (Symbol.part x)) [] := by
  induction ps with
  | nil => rfl
  | cons p ps ih => rw [List.map_cons, normalize, ih, prepend_bare, spell_cons, List.foldr_append]

/-- Normal forms agree exactly when they spell the same. -/
theorem same_ofParts_iff : (ofParts ps).same (ofParts qs) = true ↔ spell ps = spell qs := by
  rw [same_iff_map_bare_eq]
  change (normalize ps).map Part.bare = (normalize qs).map Part.bare ↔ _
  constructor
  · intro h
    have hspell (rs : List (Part η)) : spell ((normalize rs).map Part.bare) = spell rs := by
      rw [spell, List.flatMap_map]
      simp only [Part.spell_bare]
      exact isReading_spell.read_normalize rs
    rw [← hspell ps, h, hspell]
  · intro h
    rw [map_bare_normalize, map_bare_normalize, normalize_map_bare, normalize_map_bare, h]

/-! ### Reading a template -/

theorem isReading_display :
    IsReading (fun ps => display (⟨ps⟩ : Template η)) fun p s => p.display ++ s where
  cons p ps := by simp [display]
  empty s := by simp [Part.display]
  join s t u := by simp [Part.display, String.append_assoc]

/-- The normal form is canonical: it has the one shape in which literals are neither empty nor side
by side, it agrees with another exactly when both spell the same, and neither what was in normal
form before nor who reads the template makes a difference. -/
theorem ofParts_canonical (ps qs : List (Part Element)) :
    IsNormal (ofParts ps).parts ∧
    ((ofParts ps).same (ofParts qs) = true ↔ spell ps = spell qs) ∧
    ofParts (ofParts ps).parts = ofParts ps ∧
    ofParts (ps ++ qs) = ofParts ((ofParts ps).parts ++ (ofParts qs).parts) ∧
    (ofParts ps).references = references ⟨ps⟩ ∧
    (ofParts ps).display = display ⟨ps⟩ ∧
    ∀ position, ConditionLogic.pack position (ofParts ps) = ConditionLogic.pack position ⟨ps⟩ := by
  refine ⟨isNormal_normalize ps, same_ofParts_iff, ?_, ?_, references_ofParts ps,
    isReading_display.read_normalize ps, fun position => ConditionLogic.pack_ofParts position ps⟩
  · exact congrArg Template.mk (normalize_normalize ps)
  · have hright : normalize (normalize ps ++ normalize qs) = normalize (ps ++ qs) := by
      rw [normalize_append_normalize, normalize_append, normalize_normalize, ← normalize_append]
    exact congrArg Template.mk hright.symm

end Template

end ElementSync
