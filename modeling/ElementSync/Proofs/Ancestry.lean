import ElementSync.Proofs.ElementId

/-!
# Ancestry of ids

An id is above those whose segments go on where its own end. So ancestry is a strict order, and
texts of well-formed ids tell it. The top-level id that an id lies in is above it, unless the id is
one itself.
-/

namespace ElementSync

theorem Text.split_append_separator (sep : Char) (s t : String) :
    split sep (s ++ String.singleton sep ++ t) = split sep s ++ split sep t := by
  apply (List.map_inj_right fun _ _ => String.toList_inj.1).1
  rw [List.map_append, map_toList_split, map_toList_split, map_toList_split, String.toList_append,
    String.toList_append, String.toList_singleton, List.append_assoc, List.singleton_append]
  exact List.splitOn_append_cons_self _ _

def Extends (xs ys : List String) : Prop := ∃ rest, rest ≠ [] ∧ ys = xs ++ rest

namespace Extends
variable {x y : String} {xs ys zs : List String}

@[simp] theorem nil_left : Extends [] ys ↔ ys ≠ [] := by
  simp [Extends]

@[simp] theorem cons_nil : ¬ Extends (x :: xs) [] := by
  simp [Extends]

@[simp] theorem cons_cons : Extends (x :: xs) (y :: ys) ↔ x = y ∧ Extends xs ys := by
  constructor
  · rintro ⟨rest, hrest, heq⟩
    obtain ⟨rfl, rfl⟩ := List.cons.inj heq
    exact ⟨rfl, rest, hrest, rfl⟩
  · rintro ⟨rfl, rest, hrest, rfl⟩
    exact ⟨rest, hrest, rfl⟩

@[simp] theorem append_left : Extends xs (xs ++ ys) ↔ ys ≠ [] := by
  simp [Extends]

theorem irrefl : ¬ Extends xs xs := by
  simp [Extends]

theorem trans (h : Extends xs ys) (h' : Extends ys zs) : Extends xs zs := by
  obtain ⟨rest, hrest, rfl⟩ := h
  obtain ⟨rest', -, rfl⟩ := h'
  exact ⟨rest ++ rest', by simp [hrest], List.append_assoc _ _ _⟩

theorem ne_nil (h : Extends xs ys) : ys ≠ [] := by
  obtain ⟨rest, hrest, rfl⟩ := h
  simp [hrest]

theorem iff_isPrefix : Extends xs ys ↔ xs.length < ys.length ∧ xs <+: ys := by
  constructor
  · rintro ⟨rest, hrest, rfl⟩
    have hlength := List.length_pos_iff.2 hrest
    exact ⟨by simp [hlength], List.prefix_append _ _⟩
  · rintro ⟨hlength, rest, rfl⟩
    refine ⟨rest, ?_, rfl⟩
    rintro rfl
    simp at hlength

end Extends

namespace ElementId
variable {a b c id : ElementId}

theorem isAbove_iff : a.isAbove b ↔ a.adapter = b.adapter ∧ a.typeName = b.typeName ∧
    if a.isBareType then ¬ b.isBareType else a.kind = b.kind ∧ Extends a.parts b.parts := by
  rw [Extends.iff_isPrefix, ← List.isPrefixOf_iff_prefix, isAbove]
  split <;> simp [*, and_assoc]

theorem isBareType_iff : id.isBareType ↔ id.kind = .type ∧ id.parts = [] := by
  simp [isBareType]

theorem isAbove_irrefl (a : ElementId) : ¬ a.isAbove a := by
  rw [isAbove_iff]
  rintro ⟨-, -, h⟩
  split at h
  case isTrue hbare => exact h hbare
  case isFalse => exact Extends.irrefl h.2

theorem isAbove_trans (hab : a.isAbove b) (hbc : b.isAbove c) : a.isAbove c := by
  rw [isAbove_iff] at hab hbc ⊢
  obtain ⟨hadapter, htype, hab⟩ := hab
  obtain ⟨hadapter', htype', hbc⟩ := hbc
  refine ⟨hadapter.trans hadapter', htype.trans htype', ?_⟩
  -- whatever is below another id is no bare type, so only the first of the three may be one
  by_cases hbare : a.isBareType
  · rw [if_pos hbare] at hab ⊢
    rw [if_neg hab] at hbc
    exact fun hc => hbc.2.ne_nil (isBareType_iff.1 hc).2
  · rw [if_neg hbare] at hab ⊢
    have hb : ¬ b.isBareType := fun hb => hab.2.ne_nil (isBareType_iff.1 hb).2
    rw [if_neg hb] at hbc
    exact ⟨hab.1.trans hbc.1, hab.2.trans hbc.2⟩

theorem Kind.word_inj {k l : Kind} : k.word = l.word ↔ k = l := by
  constructor
  · intro h
    have hread := congrArg ofWord? h
    rw [ofWord?_word, ofWord?_word] at hread
    exact Option.some.inj hread
  · rintro rfl
    rfl

theorem isAbove_iff_segments (ha : a.IsNamed) (hb : b.IsNamed) :
    a.isAbove b ↔ Extends a.segments b.segments := by
  rw [isAbove_iff]
  rcases ha.cases with ha | ha <;> rcases hb.cases with hb | hb
  · rw [segments_of_isBareType ha, segments_of_isBareType hb]
    simp [ha, hb]
  · have hbare : ¬ b.isBareType := fun h => hb (isBareType_iff.1 h).2
    rw [segments_of_isBareType ha, segments_of_parts hb]
    simp [ha, hbare]
  · have hbare : ¬ a.isBareType := fun h => ha (isBareType_iff.1 h).2
    have hbelow : ¬ Extends a.parts b.parts := fun h => h.ne_nil (isBareType_iff.1 hb).2
    rw [segments_of_parts ha, segments_of_isBareType hb]
    simp [hbare, hbelow]
  · have hbare : ¬ a.isBareType := fun h => ha (isBareType_iff.1 h).2
    rw [segments_of_parts ha, segments_of_parts hb]
    simp [hbare, Kind.word_inj]

/-- The texts of two ids tell whether one is above the other. -/
theorem extends_segments_iff (ha : a.WellFormed) (hb : b.WellFormed) :
    Extends a.segments b.segments ↔ ∃ rest, b.fullName = a.fullName ++ "." ++ rest := by
  constructor
  · rintro ⟨rest, hrest, hsegments⟩
    refine ⟨".".intercalate rest, ?_⟩
    rw [fullName, fullName, hsegments]
    exact String.intercalate_append_of_ne_nil a.segments_ne_nil hrest
  · rintro ⟨rest, htext⟩
    refine ⟨Text.split '.' rest, ?_, ?_⟩
    · rw [Text.split]
      exact fun h => Text.pieces_ne_nil '.' rest.toList (List.map_eq_nil_iff.1 h)
    · rw [← split_fullName ha, ← split_fullName hb, htext]
      exact Text.split_append_separator '.' a.fullName rest

theorem isAbove_nest (id : ElementId) (path : List String) :
    id.isAbove (id.nest path) ↔ path ≠ [] := by
  rw [isAbove_iff]
  by_cases hbare : id.isBareType
  · have hnest : (id.nest path).isBareType ↔ path = [] := by
      simp [isBareType_iff, nest, isBareType_iff.1 hbare]
    rw [if_pos hbare, hnest]
    simp [nest]
  · rw [if_neg hbare]
    simp [nest]

theorem depth_le_one (k : Kind) : depth k ≤ 1 := by
  cases k <;> decide

theorem IsNamed.depth_le (h : id.IsNamed) : depth id.kind ≤ id.parts.length := by
  rcases h with hkind | hparts
  · rw [hkind]
    exact Nat.zero_le _
  · exact Nat.le_trans (depth_le_one id.kind) (List.length_pos_iff.2 hparts)

theorem IsNamed.isTopLevel_topLevel (h : id.IsNamed) : id.topLevel.1.isTopLevel := by
  simp [isTopLevel, topLevel, Nat.min_eq_left h.depth_le]

theorem IsNamed.isTopLevel_iff (h : id.IsNamed) : id.isTopLevel ↔ id.topLevel.2 = [] := by
  have hdepth := h.depth_le
  simp only [isTopLevel, topLevel, decide_eq_true_eq, List.drop_eq_nil_iff]
  omega

/-- Ids make up one tree. Ancestry is a strict order on all of them, the texts of well-formed ids
tell it, and cutting an id off at its top level finds the root that it lies below. -/
theorem ancestry_coherent :
    (∀ a : ElementId, ¬ a.isAbove a) ∧
    (∀ a b c : ElementId, a.isAbove b → b.isAbove c → a.isAbove c) ∧
    (∀ a b : ElementId, a.WellFormed → b.WellFormed →
      (a.isAbove b ↔ ∃ rest, b.fullName = a.fullName ++ "." ++ rest)) ∧
    ∀ id : ElementId, id.WellFormed →
      id.topLevel.1.isTopLevel ∧ id.topLevel.1.nest id.topLevel.2 = id ∧
      (id.topLevel.1.isAbove id ↔ ¬ id.isTopLevel) ∧ (id.isTopLevel → id.topLevel = (id, [])) := by
  refine ⟨isAbove_irrefl, fun a b c => isAbove_trans, fun a b ha hb => ?_, fun id hid => ?_⟩
  · rw [isAbove_iff_segments ha.2 hb.2, extends_segments_iff ha hb]
  · have hnamed : id.IsNamed := hid.2
    have hnest := topLevel_nest id
    have habove := isAbove_nest id.topLevel.1 id.topLevel.2
    rw [hnest, ne_eq, ← hnamed.isTopLevel_iff] at habove
    refine ⟨hnamed.isTopLevel_topLevel, hnest, habove, fun htop => ?_⟩
    have hrest := hnamed.isTopLevel_iff.1 htop
    rw [hrest] at hnest
    exact Prod.ext (by simpa [nest] using hnest) hrest

/-- A value in a row of an instance lies below the type, but not below the field of that name. -/
theorem ancestry_coherent_rows :
    let row := (inst "salesforce" "Rule" "Tier").nest ["Rows", "0"]
    (type "salesforce" "Rule").WellFormed ∧ row.WellFormed ∧
    (inst "salesforce" "Rule" "Tier").isAbove row ∧ (type "salesforce" "Rule").isAbove row ∧
    (∃ rest, row.fullName = "salesforce.Rule" ++ "." ++ rest) ∧
    (¬ ∃ rest, row.fullName = "salesforce.Rule.field.Tier" ++ "." ++ rest) ∧
    row.topLevel.1.isAbove row := by
  intro row
  have hrow : row.WellFormed := by
    refine ⟨?_, .inr (by decide)⟩
    decide
  have htype : (type "salesforce" "Rule").WellFormed := ⟨by decide, .inl rfl⟩
  have hfield : (field "salesforce" "Rule" "Tier").WellFormed := ⟨by decide, .inr (by decide)⟩
  obtain ⟨-, htrans, htext, htop⟩ := ancestry_coherent
  have habove : (inst "salesforce" "Rule" "Tier").isAbove row := by decide
  have htypeAbove := htrans _ _ _ (by decide : (type "salesforce" "Rule").isAbove _) habove
  exact ⟨htype, hrow, habove, htypeAbove, (htext _ _ htype hrow).1 htypeAbove,
    fun h => absurd ((htext _ _ hfield hrow).2 h) (by decide), (htop row hrow).2.2.1.2 (by decide)⟩

end ElementId

end ElementSync
