import ElementSync.Proofs.ConditionLogic.RoundTrip
import ElementSync.Proofs.Text.Runs

/-!
# Condition logic under other positions

A template stays what it is while the records that it refers to move to other positions. Packing
writes the new positions, and unpacking finds the same records there. Only a numeral that the
template keeps as text must not become the position of a record.
-/

namespace ElementSync

namespace Template
variable {η : Type} {ps qs : List (Part η)}

theorem same_iff {t u : Template η} :
    t.same u = true ↔ List.Forall₂ (fun p q => p.same q = true) t.parts u.parts := by
  obtain ⟨ps⟩ := t
  obtain ⟨qs⟩ := u
  change same.go ps qs = true ↔ _
  induction ps generalizing qs with
  | nil => cases qs <;> simp [same.go]
  | cons p ps ih => cases qs <;> simp [same.go, ih]

def Part.bare : Part η → Part η
  | .literal s => .literal s
  | .reference r => .reference ⟨r.target, none⟩

theorem Part.same_iff_bare_eq {p q : Part η} : p.same q = true ↔ p.bare = q.bare := by
  cases p <;> cases q <;> simp [Part.same, Part.bare]

theorem same_iff_map_bare_eq {t u : Template η} :
    t.same u = true ↔ t.parts.map Part.bare = u.parts.map Part.bare := by
  rw [same_iff, ← List.forall₂_eq_eq_eq, List.forall₂_map_left_iff, List.forall₂_map_right_iff]
  simp only [Part.same_iff_bare_eq]

theorem map_bare_prepend (p : Part η) (ps : List (Part η)) :
    (prepend p ps).map Part.bare = prepend p.bare (ps.map Part.bare) := by
  cases p with
  | reference r => rfl
  | literal s =>
    by_cases hs : s = ""
    · simp [prepend, hs, Part.bare]
    · cases ps with
      | nil => simp [prepend, hs, Part.bare]
      | cons q ps => cases q <;> simp [prepend, hs, Part.bare]

theorem map_bare_normalize (ps : List (Part η)) :
    (normalize ps).map Part.bare = normalize (ps.map Part.bare) := by
  induction ps with
  | nil => rfl
  | cons p ps ih => rw [normalize, map_bare_prepend, ih, List.map_cons, normalize]

/-- Normal form depends on the targets of the references alone. -/
theorem same_ofParts (h : List.Forall₂ (fun p q => p.same q = true) ps qs) :
    (ofParts ps).same (ofParts qs) = true := by
  have hparts : (⟨ps⟩ : Template η).same ⟨qs⟩ = true := same_iff.2 h
  rw [same_iff_map_bare_eq] at hparts ⊢
  change (normalize ps).map Part.bare = (normalize qs).map Part.bare
  rw [map_bare_normalize, map_bare_normalize, hparts]

end Template

namespace ConditionLogic

/-! ### The text of a template -/

theorem indices_append {s t : String} (h : Text.Apart s t) :
    indices (s ++ t) = indices s ++ indices t := by
  rw [← filterMap_position?_digitRuns, ← filterMap_position?_digitRuns,
    ← filterMap_position?_digitRuns, Text.digitRuns_append h, List.filterMap_append]

def textIndices (t : Template Element) : List Int :=
  t.parts.flatMap fun
    | .literal s => indices s
    | .reference _ => []

@[simp] theorem textIndices_nil : textIndices ⟨[]⟩ = [] := rfl

@[simp] theorem textIndices_literal_cons (s : String) (ps : List (Template.Part Element)) :
    textIndices ⟨.literal s :: ps⟩ = indices s ++ textIndices ⟨ps⟩ := rfl

@[simp] theorem textIndices_reference_cons (r : Reference Element)
    (ps : List (Template.Part Element)) :
    textIndices ⟨.reference r :: ps⟩ = textIndices ⟨ps⟩ := rfl

/-- No run goes over from one part into the other. -/
def PartsApart : Template.Part Element → Template.Part Element → Prop
  | .literal s, .literal t => Text.Apart s t
  | _, _ => True

theorem exists_of_normalize_eq_literal_cons {ps qs : List (Template.Part Element)} {t : String}
    (hne : .literal "" ∉ ps) (h : Template.normalize ps = .literal t :: qs) :
    ∃ s u rest, ps = .literal s :: rest ∧ t = s ++ u := by
  cases ps with
  | nil => cases h
  | cons p ps =>
    cases p with
    | reference r => cases h
    | literal s =>
      have hs : s ≠ "" := fun hs => hne (by simp [hs])
      rw [Template.normalize] at h
      rcases Template.prepend_literal_cases hs (Template.normalize ps) with
        ⟨u, rest, -, hjoin⟩ | hcons
      · rw [hjoin] at h
        cases h
        exact ⟨s, u, ps, rfl, rfl⟩
      · rw [hcons] at h
        cases h
        exact ⟨t, "", ps, rfl, by simp⟩

/-- In normal form the text names no other positions, unless parts of it were torn apart within a
run. -/
theorem textIndices_ofParts {ps : List (Template.Part Element)} (hne : .literal "" ∉ ps)
    (hapart : ps.IsChain PartsApart) : textIndices (.ofParts ps) = textIndices ⟨ps⟩ := by
  induction ps with
  | nil => rfl
  | cons p ps ih =>
    have hne' : .literal "" ∉ ps := fun h => hne (List.mem_cons_of_mem p h)
    have hrest := ih hne' hapart.tail
    cases p with
    | reference r => exact hrest
    | literal s =>
      have hs : s ≠ "" := fun hs => hne (by simp [hs])
      change textIndices ⟨Template.prepend (.literal s) (Template.normalize ps)⟩ = _
      change textIndices ⟨Template.normalize ps⟩ = _ at hrest
      rw [textIndices_literal_cons, ← hrest]
      rcases Template.prepend_literal_cases hs (Template.normalize ps) with
        ⟨t, qs, heq, hjoin⟩ | hcons
      · obtain ⟨s', u, rest, rfl, rfl⟩ := exists_of_normalize_eq_literal_cons hne' heq
        have hs' : s' ≠ "" := fun hs' => hne' (by simp [hs'])
        have hnext : Text.Apart s s' := (List.isChain_cons_cons.1 hapart).1
        rw [hjoin, heq, textIndices_literal_cons, textIndices_literal_cons,
          indices_append (hnext.append_right hs' u), List.append_assoc]
      · rw [hcons, textIndices_literal_cons]

section
variable (positions : Positions)

theorem part_ofText (s : String) :
    (Run.ofText positions s).part = .literal s ∨
      ∃ e, (Run.ofText positions s).part = .reference (.ofElement e) := by
  rcases ofText_cases positions s with ⟨-, hs⟩ | ⟨n, -, -, hs⟩ | ⟨n, e, -, -, hs⟩
  · exact .inl (by rw [hs]; rfl)
  · exact .inl (by rw [hs]; rfl)
  · exact .inr ⟨e, by rw [hs]; rfl⟩

theorem partsApart_part {s t : String} (h : Text.Apart s t) :
    PartsApart (Run.ofText positions s).part (Run.ofText positions t).part := by
  rcases part_ofText positions s with hs | ⟨e, hs⟩ <;>
    rcases part_ofText positions t with ht | ⟨e', ht⟩ <;>
    rw [hs, ht]
  · exact h
  all_goals trivial

theorem textIndices_part_cons {s : String} (hrun : Text.digitRuns s = [s])
    (ps : List (Template.Part Element)) :
    textIndices ⟨(Run.ofText positions s).part :: ps⟩ =
      (Run.ofText positions s).missing?.toList ++ textIndices ⟨ps⟩ := by
  have hindices : indices s = (position? s).toList := by
    rw [← filterMap_position?_digitRuns, hrun]
    cases h : position? s <;> simp [h]
  rcases ofText_cases positions s with ⟨hn, hs⟩ | ⟨n, hn, -, hs⟩ | ⟨n, e, -, -, hs⟩
  · rw [hs, Run.part, textIndices_literal_cons, hindices, hn]
    rfl
  · rw [hs, Run.part, textIndices_literal_cons, hindices, hn]
    rfl
  · rw [hs, Run.part, textIndices_reference_cons]
    rfl

theorem textIndices_parts {ss : List String} (hrun : ∀ s ∈ ss, Text.digitRuns s = [s]) :
    textIndices ⟨(ss.map (Run.ofText positions)).map Run.part⟩ =
      (ss.map (Run.ofText positions)).filterMap Run.missing? := by
  induction ss with
  | nil => rfl
  | cons s ss ih =>
    have hrest := ih fun t ht => hrun t (List.mem_cons_of_mem s ht)
    rw [List.map_cons, List.map_cons,
      textIndices_part_cons positions (hrun s List.mem_cons_self), hrest, List.filterMap_cons]
    cases (Run.ofText positions s).missing? <;> rfl

/-- The positions that the text of an unpacked template still names are the missing ones. -/
theorem textIndices_unpack? {raw : String} {t : Template Element}
    (ht : unpack? positions raw = some t) : textIndices t = missing positions raw := by
  obtain ⟨-, rfl⟩ := unpack?_eq_some_iff.1 ht
  have hrun : ∀ s ∈ Text.digitRuns raw, Text.digitRuns s = [s] := fun s hs =>
    (Text.exists_isRun_of_mem_digitRuns hs).elim fun _ h => h.digitRuns_eq_singleton
  rw [textIndices_ofParts, runs, textIndices_parts positions hrun, missing, runs]
  · intro hempty
    obtain ⟨run, hmem, hpart⟩ := List.mem_map.1 hempty
    obtain ⟨s, hs, rfl⟩ := List.mem_map.1 hmem
    rcases part_ofText positions s with h | ⟨e, h⟩
    · rw [hpart, Template.Part.literal.injEq] at h
      subst h
      cases hrun "" hs
    · rw [hpart] at h
      cases h
  · rw [runs, List.isChain_map, List.isChain_map]
    exact (Text.isChain_apart_digitRuns raw).imp fun s t => partsApart_part positions

end

/-! ### Other positions -/

/-- A position is read from its decimal form. -/
theorem position?_toString {n : Int} (hn : 0 ≤ n) (hlt : n < Nat.pow 2 63) :
    position? (toString n) = some n := by
  obtain ⟨m, rfl⟩ := Int.eq_ofNat_of_zero_le hn
  have hne : Nat.toDigits 10 m ≠ [] := Nat.toDigits_ne_nil
  have hindex := position?_ofList_of_isDigit hne fun _ => Text.isDigit_of_mem_toDigits
  rw [← Nat.toString_eq_ofList_toDigits] at hindex
  refine hindex.trans ?_
  rw [index?, Text.isPlain_toDigits, Text.number_toDigits, if_pos]
  simpa using Int.ofNat_lt.1 hlt

theorem eq_true_of_position? {s : String} {n : Int} (hn : position? s = some n) {k : Bool}
    (hs : Text.IsRun k s) : k = true := by
  cases k with
  | true => rfl
  | false =>
    obtain ⟨c, hc⟩ := List.exists_mem_of_ne_nil _ (mt String.toList_eq_nil_iff.1 hs.ne_empty)
    have hall : s.toList.all Char.isDigit = false :=
      List.all_eq_false.2 ⟨c, hc, by simp [hs.isDigit_eq c hc]⟩
    have hnone := position?_ofList_of_not_all hall
    rw [String.ofList_toList, hn] at hnone
    cases hnone

def renumber (positions : Positions) (position : Reference Element → Option Int) (s : String) :
    String :=
  let e? := (position? s).bind fun n => positions.lookup n
  (e?.bind fun e => position (.ofElement e)).elim s toString

/-- Whoever is referred to has another position, at which the other text finds it. -/
def Moves (renumbered : Positions) (position : Reference Element → Option Int)
    (r : Reference Element) : Prop :=
  ∃ n e, position r = some n ∧ 0 ≤ n ∧ n < Nat.pow 2 63 ∧ renumbered.lookup n = some e ∧
    e.id = r.target

def RunMoves (positions renumbered : Positions) (position : Reference Element → Option Int)
    (s : String) : Prop :=
  ∀ n e, position? s = some n → positions.lookup n = some e →
    Moves renumbered position (.ofElement e)

section
variable {positions renumbered : Positions} {position : Reference Element → Option Int}

theorem renumber_of_found {s : String} {n m : Int} {e : Element} (hn : position? s = some n)
    (he : positions.lookup n = some e) (hm : position (.ofElement e) = some m) :
    renumber positions position s = toString m := by
  simp [renumber, hn, he, hm]

theorem isRun_renumber {s : String} {k : Bool} (hs : Text.IsRun k s)
    (hmoves : RunMoves positions renumbered position s) :
    Text.IsRun k (renumber positions position s) := by
  cases hn : position? s with
  | none => simpa [renumber, hn] using hs
  | some n =>
    cases he : positions.lookup n with
    | none => simpa [renumber, hn, he] using hs
    | some e =>
      obtain ⟨m, -, hm, hpos, -⟩ := hmoves n e hn he
      obtain ⟨m, rfl⟩ := Int.eq_ofNat_of_zero_le hpos
      rw [renumber_of_found hn he hm, eq_true_of_position? hn hs]
      exact Text.isRun_toString m

theorem packParts_part_cons {s u : String} {ps : List (Template.Part Element)}
    (hmoves : RunMoves positions renumbered position s)
    (hrest : packParts position ps = .ok u) :
    packParts position ((Run.ofText positions s).part :: ps) =
      .ok (renumber positions position s ++ u) := by
  rcases ofText_cases positions s with ⟨hn, hs⟩ | ⟨n, hn, he, hs⟩ | ⟨n, e, hn, he, hs⟩
  · rw [hs, Run.part, packParts_literal_cons, hrest]
    simp [Except.map, renumber, hn]
  · rw [hs, Run.part, packParts_literal_cons, hrest]
    simp [Except.map, renumber, hn, he]
  · obtain ⟨m, -, hm, -⟩ := hmoves n e hn he
    rw [hs, Run.part, packParts_reference_cons position hm, hrest, renumber_of_found hn he hm]
    rfl

theorem packParts_renumber {ss : List String}
    (hmoves : ∀ s ∈ ss, RunMoves positions renumbered position s) :
    packParts position ((ss.map (Run.ofText positions)).map Run.part) =
      .ok (String.join (ss.map (renumber positions position))) := by
  induction ss with
  | nil => rfl
  | cons s ss ih =>
    have hrest := ih fun t ht => hmoves t (List.mem_cons_of_mem s ht)
    rw [List.map_cons, List.map_cons, List.map_cons, String.join_cons]
    exact packParts_part_cons (hmoves s List.mem_cons_self) hrest

/-- A run of the text and the run written for it unpack alike. -/
theorem same_part_renumber {s : String} (hmoves : RunMoves positions renumbered position s)
    (hfree : ∀ n, position? s = some n → positions.lookup n = none →
      renumbered.lookup n = none) :
    (Run.ofText positions s).part.same
      (Run.ofText renumbered (renumber positions position s)).part = true := by
  rcases ofText_cases positions s with ⟨hn, hs⟩ | ⟨n, hn, he, hs⟩ | ⟨n, e, hn, he, hs⟩
  · have hkept : renumber positions position s = s := by simp [renumber, hn]
    have htext : Run.ofText renumbered s = .text s := by simp [Run.ofText, hn]
    rw [hs, hkept, htext]
    simp [Run.part, Template.Part.same]
  · have hkept : renumber positions position s = s := by simp [renumber, hn, he]
    have hmissing : Run.ofText renumbered s = .missing n s := by
      simp [Run.ofText, hn, hfree n hn he]
    rw [hs, hkept, hmissing]
    simp [Run.part, Template.Part.same]
  · obtain ⟨m, e', hm, hpos, hlt, he', hid⟩ := hmoves n e hn he
    have hfound : Run.ofText renumbered (toString m) = .found e' := by
      simp only [Run.ofText, position?_toString hpos hlt, he']
    rw [hs, renumber_of_found hn he hm, hfound]
    exact decide_eq_true hid.symm

end

/-- A template that was unpacked is found again in the text that it is packed into, whatever the
new positions of its records are, unless a numeral in it becomes the position of a record. -/
theorem unpack?_pack_renumbered {positions renumbered : Positions} {raw : String}
    {t : Template Element} (ht : unpack? positions raw = some t)
    {position : Reference Element → Option Int}
    (hmoves : ∀ r ∈ t.references, Moves renumbered position r)
    (hfree : ∀ n ∈ textIndices t, renumbered.lookup n = none) :
    ∃ s u, pack position t = .ok s ∧ unpack? renumbered s = some u ∧ t.same u = true := by
  have hmoves' : ∀ s ∈ Text.digitRuns raw, RunMoves positions renumbered position s := by
    intro s hs n e hn he
    have hindex : n ∈ indices raw := by
      rw [← filterMap_position?_digitRuns]
      exact List.mem_filterMap.2 ⟨s, hs, hn⟩
    exact hmoves _ ((mem_references_unpack? ht).2 ⟨n, hindex, e, he, rfl⟩)
  have hfree' : ∀ s ∈ Text.digitRuns raw, ∀ n, position? s = some n →
      positions.lookup n = none → renumbered.lookup n = none := by
    intro s hs n hn hnone
    apply hfree
    rw [textIndices_unpack? positions ht, missing, runs, filterMap_missing?]
    exact List.mem_filter.2 ⟨List.mem_filterMap.2 ⟨s, hs, hn⟩, by simp [Assoc.hasKey, hnone]⟩
  obtain ⟨⟨n, hn, hkey⟩, rfl⟩ := unpack?_eq_some_iff.1 ht
  have hpack : pack position (.ofParts ((runs positions raw).map Run.part)) =
      .ok (String.join ((Text.digitRuns raw).map (renumber positions position))) := by
    rw [pack_ofParts, runs, packParts_renumber hmoves']
  have hruns := Text.digitRuns_join_map fun s hs k hk => isRun_renumber hk (hmoves' s hs)
  refine ⟨_, _, hpack, unpack?_eq_some_iff.2 ⟨?_, rfl⟩, ?_⟩
  · rw [← filterMap_position?_digitRuns] at hn
    obtain ⟨s, hs, hn⟩ := List.mem_filterMap.1 hn
    obtain ⟨e, he⟩ := Option.isSome_iff_exists.1 hkey
    obtain ⟨m, e', hm, hpos, hlt, he', -⟩ := hmoves' s hs n e hn he
    rw [← filterMap_position?_digitRuns, hruns]
    refine ⟨m, List.mem_filterMap.2 ⟨_, List.mem_map_of_mem hs, ?_⟩, ?_⟩
    · rw [renumber_of_found hn he hm]
      exact position?_toString hpos hlt
    · exact Option.isSome_iff_exists.2 ⟨e', he'⟩
  · apply Template.same_ofParts
    rw [runs, runs, hruns]
    simp only [List.forall₂_map_left_iff, List.forall₂_map_right_iff, List.forall₂_same]
    exact fun s hs => same_part_renumber (hmoves' s hs) (hfree' s hs)

/-- Both conditions have moved, one of them with new content. A third stands at a position that
the text writes with a leading zero only. -/
theorem unpack?_pack_renumbered_conditions :
    let condition (name value : String) : Element :=
      .inst { name := name, type := { id := .type "salesforce" "Condition" },
              value := [("Value", .text value)] }
    let positions : Positions := [(1, condition "a" "old"), (12, condition "b" "")]
    let renumbered : Positions :=
      [(2, condition "b" ""), (10, condition "a" "new"), (3, condition "c" "")]
    let position (r : Reference Element) : Option Int :=
      if r.target = (condition "a" "").id then some 10 else some 2
    ∃ t s u, unpack? positions "(1 OR 03) AND 12 OR 7 AND 1" = some t ∧
      pack position t = .ok s ∧ unpack? renumbered s = some u ∧ t.same u = true := by
  intro condition positions renumbered position
  let raw := "(1 OR 03) AND 12 OR 7 AND 1"
  obtain ⟨t, ht⟩ := Option.isSome_iff_exists.1
    (by decide +kernel : (unpack? positions raw).isSome)
  have hindices : indices raw = [1, 12, 7, 1] := by decide +kernel
  have hmissing : missing positions raw = [7] := by decide +kernel
  have hmoves : ∀ r ∈ t.references, Moves renumbered position r := by
    intro r hr
    obtain ⟨n, hn, e, he, rfl⟩ := (mem_references_unpack? ht).1 hr
    simp only [hindices, List.mem_cons, List.not_mem_nil, or_false] at hn
    rcases hn with rfl | rfl | rfl | rfl <;> cases he
    · exact ⟨10, _, rfl, by decide, by decide, rfl, rfl⟩
    · exact ⟨2, _, rfl, by decide, by decide, rfl, rfl⟩
    · exact ⟨10, _, rfl, by decide, by decide, rfl, rfl⟩
  have hfree : ∀ n ∈ textIndices t, renumbered.lookup n = none := by
    rw [textIndices_unpack? positions ht, hmissing]
    intro n hn
    cases List.mem_singleton.1 hn
    rfl
  obtain ⟨s, u, hs, hu, hsame⟩ := unpack?_pack_renumbered ht hmoves hfree
  exact ⟨t, s, u, ht, hs, hu, hsame⟩

end ConditionLogic

end ElementSync
