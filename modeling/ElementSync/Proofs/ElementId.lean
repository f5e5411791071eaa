import ElementSync.ElementId

/-!
# The text of element ids

Cutting a text at its dots and joining segments with dots undo each other. So a text is read as
the only id that is written like it, and the ids that their text gives back are the well-formed ones.
-/

namespace ElementSync

namespace Text

theorem pieces_eq_splitOn (sep : Char) (cs : List Char) : pieces sep cs = cs.splitOn sep := by
  induction cs with
  | nil => rfl
  | cons c cs ih =>
    have hsplit : (c :: cs).splitOn sep =
        if c = sep then [] :: cs.splitOn sep else (cs.splitOn sep).modifyHead (c :: ·) := by
      simp only [List.splitOn, List.splitOnP_cons_eq_if_modifyHead, beq_iff_eq]
    rw [hsplit, pieces, ih]
    by_cases hc : c = sep
    · rw [if_pos hc, if_pos hc]
    · rw [if_neg hc, if_neg hc]
      cases h : cs.splitOn sep with
      | nil => exact absurd (ih ▸ h) (pieces_ne_nil sep cs)
      | cons p ps => rfl

theorem map_toList_split (sep : Char) (s : String) :
    (split sep s).map String.toList = s.toList.splitOn sep := by
  rw [split, List.map_map, ← pieces_eq_splitOn]
  simp

/-- Joining the segments of a text gives the text back. -/
theorem intercalate_split (sep : Char) (s : String) :
    (String.singleton sep).intercalate (split sep s) = s := by
  apply String.toList_inj.1
  rw [String.toList_intercalate, map_toList_split, String.toList_singleton]
  exact List.intercalate_splitOn sep

/-- Segments without the separator are the segments of the text that they make up. -/
theorem split_intercalate (sep : Char) {segments : List String} (hne : segments ≠ [])
    (h : ∀ s ∈ segments, sep ∉ s.toList) :
    split sep ((String.singleton sep).intercalate segments) = segments := by
  apply (List.map_inj_right fun _ _ => String.toList_inj.1).1
  rw [map_toList_split, String.toList_intercalate, String.toList_singleton]
  apply List.splitOn_intercalate
  · intro cs hcs
    obtain ⟨s, hs, rfl⟩ := List.mem_map.1 hcs
    exact h s hs
  · simpa using hne

theorem notMem_of_mem_pieces {sep : Char} {cs p : List Char} (hp : p ∈ pieces sep cs) :
    sep ∉ p := by
  induction cs generalizing p with
  | nil => simp_all [pieces]
  | cons c cs ih =>
    rw [pieces] at hp
    by_cases hc : c = sep
    · rw [if_pos hc] at hp
      rcases List.mem_cons.1 hp with rfl | hp
      · exact List.not_mem_nil
      · exact ih hp
    · rw [if_neg hc] at hp
      cases h : pieces sep cs with
      | nil => exact absurd h (pieces_ne_nil sep cs)
      | cons q qs =>
        rw [h] at hp ih
        rcases List.mem_cons.1 hp with rfl | hp
        · exact List.not_mem_cons_of_ne_of_not_mem (Ne.symm hc) (ih List.mem_cons_self)
        · exact ih (List.mem_cons_of_mem q hp)

theorem notMem_of_mem_split {sep : Char} {s t : String} (h : t ∈ split sep s) :
    sep ∉ t.toList := by
  obtain ⟨p, hp, rfl⟩ := List.mem_map.1 h
  rw [String.toList_ofList]
  exact notMem_of_mem_pieces hp

end Text

namespace ElementId

/-- Only the id of a bare type has no parts. -/
def IsNamed (id : ElementId) : Prop := id.kind = .type ∨ id.parts ≠ []

theorem eq_type_of_isBareType {id : ElementId} (h : id.isBareType) :
    id = type id.adapter id.typeName := by
  obtain ⟨adapter, typeName, kind, parts⟩ := id
  simp_all [isBareType, type]

theorem segments_of_isBareType {id : ElementId} (h : id.isBareType) :
    id.segments = [id.adapter, id.typeName] := by
  rw [segments, if_pos h]

theorem segments_of_parts {id : ElementId} (h : id.parts ≠ []) :
    id.segments = id.adapter :: id.typeName :: id.kind.word :: id.parts := by
  have hbare : ¬ id.isBareType := by simp [isBareType, h]
  rw [segments, if_neg hbare]

/-- An id with a name has the short form of a bare type or parts behind the word of its kind. -/
theorem IsNamed.cases {id : ElementId} (h : id.IsNamed) : id.isBareType ∨ id.parts ≠ [] := by
  by_cases hparts : id.parts = []
  · exact Or.inl (by simp [isBareType, hparts, h.resolve_right (not_not_intro hparts)])
  · exact Or.inr hparts

theorem Kind.word_of_ofWord? {word : String} {k : Kind} (h : ofWord? word = some k) :
    k.word = word := by
  unfold ofWord? at h
  split at h <;> cases h <;> rfl

/-- A text is read as the id whose segments it has, if none of them is empty. -/
theorem parse_eq_ok_iff {text : String} {id : ElementId} :
    parse text = .ok id ↔
      (∀ s ∈ Text.split '.' text, s ≠ "") ∧ id.segments = Text.split '.' text ∧ id.IsNamed := by
  have hempty : (Text.split '.' text).any String.isEmpty ↔ ¬ ∀ s ∈ Text.split '.' text, s ≠ "" := by
    simp
  rw [parse]
  by_cases hsegments : ∀ s ∈ Text.split '.' text, s ≠ ""
  case neg =>
    simp only [hempty.2 hsegments, if_true]
    exact ⟨nofun, fun h => absurd h.1 hsegments⟩
  case pos =>
    simp only [Bool.eq_false_iff.2 (mt hempty.1 (not_not_intro hsegments)), Bool.false_eq_true,
      if_false]
    generalize Text.split '.' text = segments at hsegments
    constructor
    · intro h
      refine ⟨hsegments, ?_⟩
      split at h
      case h_1 adapter typeName =>
        cases h
        exact ⟨rfl, Or.inl rfl⟩
      case h_2 => cases h
      case h_3 adapter typeName word parts hlong =>
        have hparts : parts ≠ [] := fun hnil => hlong hnil
        split at h
        case h_1 kind hkind =>
          cases h
          rw [segments_of_parts hparts, Kind.word_of_ofWord? hkind]
          exact ⟨rfl, Or.inr hparts⟩
        case h_2 => cases h
      case h_4 => cases h
    · rintro ⟨-, rfl, hnamed⟩
      rcases hnamed.cases with hbare | hparts
      · rw [segments_of_isBareType hbare, eq_type_of_isBareType hbare]
        rfl
      · obtain ⟨adapter, typeName, kind, parts⟩ := id
        obtain ⟨part, parts, rfl⟩ := List.exists_cons_of_ne_nil hparts
        rw [segments_of_parts hparts]
        simp only [Kind.ofWord?_word]

/-- Two segments are those of a type. More have the word of a kind in the third place, and there is
a part behind it. -/
def AreSegments (segments : List String) : Prop :=
  (∀ s ∈ segments, s ≠ "") ∧
    (segments.length = 2 ∨
      4 ≤ segments.length ∧ ∃ word ∈ ["type", "field", "instance", "attr"], segments[2]? = some word)

theorem Kind.exists_word_iff {word : String} :
    (∃ k : Kind, k.word = word) ↔ word ∈ ["type", "field", "instance", "attr"] := by
  constructor
  · rintro ⟨k, rfl⟩
    cases k <;> simp [Kind.word]
  · intro h
    simp only [List.mem_cons, List.not_mem_nil, or_false] at h
    rcases h with rfl | rfl | rfl | rfl
    · exact ⟨.type, rfl⟩
    · exact ⟨.field, rfl⟩
    · exact ⟨.inst, rfl⟩
    · exact ⟨.attr, rfl⟩

/-- The segments of an id with a name, if none of them is empty. -/
theorem areSegments_iff {segments : List String} :
    AreSegments segments ↔
      (∀ s ∈ segments, s ≠ "") ∧ ∃ id : ElementId, id.segments = segments ∧ id.IsNamed := by
  refine and_congr_right fun _ => ?_
  constructor
  · rintro (hshort | ⟨hlong, word, hword, hthird⟩)
    · match segments, hshort with
      | [adapter, typeName], _ => exact ⟨type adapter typeName, rfl, Or.inl rfl⟩
    · obtain ⟨kind, rfl⟩ := Kind.exists_word_iff.2 hword
      match segments, hlong, hthird with
      | adapter :: typeName :: third :: part :: parts, _, hthird =>
        cases hthird
        exact ⟨⟨adapter, typeName, kind, part :: parts⟩, segments_of_parts (List.cons_ne_nil _ _),
          Or.inr (List.cons_ne_nil _ _)⟩
  · rintro ⟨id, rfl, hnamed⟩
    rcases hnamed.cases with hbare | hparts
    · rw [segments_of_isBareType hbare]
      exact Or.inl rfl
    · obtain ⟨part, parts, heq⟩ := List.exists_cons_of_ne_nil hparts
      rw [segments_of_parts hparts, heq]
      exact Or.inr ⟨by simp, id.kind.word, Kind.exists_word_iff.1 ⟨id.kind, rfl⟩, rfl⟩

theorem Kind.dot_notMem_word (k : Kind) : '.' ∉ k.word.toList := by
  cases k <;> decide

/-- Neither an empty segment nor a dot in one. -/
theorem wellFormed_iff {id : ElementId} :
    id.WellFormed ↔ (∀ s ∈ id.segments, s ≠ "" ∧ '.' ∉ s.toList) ∧ id.IsNamed := by
  have hword : id.kind.word ≠ "" ∧ '.' ∉ id.kind.word.toList :=
    ⟨by cases id.kind <;> decide, id.kind.dot_notMem_word⟩
  refine and_congr_left fun hnamed => ?_
  rcases IsNamed.cases hnamed with hbare | hparts
  · rw [segments_of_isBareType hbare, eq_type_of_isBareType hbare]
    rfl
  · rw [segments_of_parts hparts]
    simp [hword]

theorem segments_ne_nil (id : ElementId) : id.segments ≠ [] := List.cons_ne_nil _ _

theorem split_fullName {id : ElementId} (h : id.WellFormed) :
    Text.split '.' id.fullName = id.segments :=
  Text.split_intercalate '.' id.segments_ne_nil fun s hs => ((wellFormed_iff.1 h).1 s hs).2

/-- Reading is the inverse of writing well-formed ids. -/
theorem parse_eq_ok_iff_fullName {text : String} {id : ElementId} :
    parse text = .ok id ↔ id.WellFormed ∧ id.fullName = text := by
  rw [parse_eq_ok_iff]
  constructor
  · rintro ⟨hsegments, heq, hnamed⟩
    constructor
    · rw [wellFormed_iff, heq]
      exact ⟨fun s hs => ⟨hsegments s hs, Text.notMem_of_mem_split hs⟩, hnamed⟩
    · rw [fullName, heq]
      exact Text.intercalate_split '.' text
  · rintro ⟨hwell, rfl⟩
    obtain ⟨hsegments, hnamed⟩ := wellFormed_iff.1 hwell
    rw [split_fullName hwell]
    exact ⟨fun s hs => (hsegments s hs).1, rfl, hnamed⟩

/-- A text is read exactly when its segments are those of an id, and then as the well-formed id
that is written like it. So no two well-formed ids have one text, and no other id is given back by
its text. -/
theorem parse_inverts_fullName :
    (∀ text : String,
      (parse text).isOk ↔ AreSegments ((text.toList.splitOn '.').map String.ofList)) ∧
    (∀ (text : String) (id : ElementId), parse text = .ok id ↔ id.WellFormed ∧ id.fullName = text) ∧
    (∀ id : ElementId, parse id.fullName = .ok id ↔ id.WellFormed) ∧
    Function.Injective fun id : { id : ElementId // id.WellFormed } => id.1.fullName := by
  refine ⟨fun text => ?_, fun text id => parse_eq_ok_iff_fullName, fun id => ?_, ?_⟩
  · rw [← Text.pieces_eq_splitOn]
    change _ ↔ AreSegments (Text.split '.' text)
    have hok : (parse text).isOk ↔ ∃ id, parse text = .ok id := by
      cases parse text <;> simp [Except.isOk, Except.toBool]
    rw [hok, areSegments_iff]
    simp only [parse_eq_ok_iff, exists_and_left]
  · rw [parse_eq_ok_iff_fullName, and_iff_left rfl]
  · rintro ⟨a, ha⟩ ⟨b, hb⟩ htext
    have hread : parse a.fullName = .ok b := parse_eq_ok_iff_fullName.2 ⟨hb, htext.symm⟩
    rw [parse_eq_ok_iff_fullName.2 ⟨ha, rfl⟩] at hread
    exact Subtype.ext (Except.ok.inj hread)

/-- The word of a kind may be a name, too. -/
example : (parse "salesforce.field.field.type").toOption = some (field "salesforce" "field" "type") := by
  decide +kernel

end ElementId

end ElementSync
