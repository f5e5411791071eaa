import ElementSync.Proofs.ConditionLogic.NormalForm
import ElementSync.Proofs.ConditionLogic.RoundTrip
import ElementSync.Proofs.Text.Search
import Mathlib.Data.Set.NAry

/-!
# What unpacked logic stands for

A text is cut into its runs in one way only. Unpacking keeps every run, as it is or as a reference
to the record at the position that the run names. So the parts of the template stand for the whole
text; without references they are the text itself.
-/

namespace ElementSync.ConditionLogic

def texts (positions : Positions) : Template.Part Element → Set String
  | .literal s => {s}
  | .reference r => {s | ∃ n e, positions.lookup n = some e ∧ .ofElement e = r ∧ toString n = s}

/-- Parts cover a text that joins texts which they stand for. -/
inductive Covers (positions : Positions) : List (Template.Part Element) → String → Prop where
  | nil : Covers positions [] ""
  | cons {p : Template.Part Element} {s : String} (first : s ∈ texts positions p)
      {ps : List (Template.Part Element)} {raw : String} (rest : Covers positions ps raw) :
      Covers positions (p :: ps) (s ++ raw)

variable (positions : Positions) {ps : List (Template.Part Element)} {raw : String}

theorem covers_cons_iff {p : Template.Part Element} :
    Covers positions (p :: ps) raw ↔
      ∃ s ∈ texts positions p, ∃ u, Covers positions ps u ∧ s ++ u = raw := by
  constructor
  · rintro (_ | ⟨first, rest⟩)
    exact ⟨_, first, _, rest, rfl⟩
  · rintro ⟨s, first, u, rest, rfl⟩
    exact .cons first rest

/-- Joining literals makes no difference to what is covered. -/
theorem isReading_covers : Template.IsReading (fun ps => {raw | Covers positions ps raw})
    fun p us => Set.image2 (· ++ ·) (texts positions p) us where
  cons _ _ := Set.ext fun _ => covers_cons_iff positions
  empty us := by simp [texts, Set.image2_singleton_left]
  join s t us := by
    simp [texts, Set.image2_singleton_left, Set.image_image, String.append_assoc]

theorem covers_normalize_iff :
    Covers positions (Template.normalize ps) raw ↔ Covers positions ps raw := by
  have h := (isReading_covers positions).read_normalize ps
  exact Set.ext_iff.1 h raw

theorem text_mem_texts (s : String) : s ∈ texts positions (Run.ofText positions s).part := by
  rcases ofText_cases positions s with ⟨hn, hs⟩ | ⟨n, hn, he, hs⟩ | ⟨n, e, hn, he, hs⟩
  · rw [hs]
    rfl
  · rw [hs]
    rfl
  · rw [hs]
    exact ⟨n, e, he, rfl, toString_of_position? hn⟩

theorem covers_parts (ss : List String) :
    Covers positions ((ss.map (Run.ofText positions)).map Run.part) (String.join ss) := by
  induction ss with
  | nil => exact .nil
  | cons s ss ih =>
    rw [String.join_cons]
    exact .cons (text_mem_texts positions s) ih

/-- Whether a record is found or not, the parts of a text cover it. -/
theorem covers_ofParts_runs (raw : String) :
    Covers positions (Template.ofParts ((runs positions raw).map Run.part)).parts raw := by
  have h := covers_parts positions (Text.digitRuns raw)
  rw [Text.join_digitRuns] at h
  exact (covers_normalize_iff positions).2 h

theorem covers_iff_display_eq {t : Template Element} (ht : t.references = []) :
    Covers positions t.parts raw ↔ t.display = raw := by
  obtain ⟨ps⟩ := t
  induction ps generalizing raw with
  | nil =>
    constructor
    · rintro ⟨⟩
      rfl
    · rintro rfl
      exact .nil
  | cons p ps ih =>
    cases p with
    | reference r => cases ht
    | literal s =>
      have hdisplay : (⟨.literal s :: ps⟩ : Template Element).display =
          s ++ (⟨ps⟩ : Template Element).display := Template.isReading_display.cons _ _
      rw [covers_cons_iff, hdisplay]
      simp [texts, ih ht]

theorem references_eq_nil_of_unpack?_eq_none (h : unpack? positions raw = none) :
    (Template.ofParts ((runs positions raw).map Run.part)).references = [] := by
  have hfound : (runs positions raw).any Run.isFound = false := by
    cases hany : (runs positions raw).any Run.isFound with
    | false => rfl
    | true => simp [unpack?, hany] at h
  rw [runs, any_isFound, List.any_eq_false] at hfound
  rw [Template.references_ofParts, runs, references_parts, List.filterMap_eq_nil_iff]
  intro n hn
  rw [Option.map_eq_none_iff, ← Option.not_isSome_iff_eq_none]
  exact hfound n hn

/-- A text has one cut into runs that change kind from one to the next. It is what a search for runs
finds, and what unpacking makes of it covers the whole text, which it displays if no record is
found. -/
theorem unpack?_covers (raw : String) :
    (∀ ss, Text.AlternatingRuns raw ss ↔ ss = Text.digitRuns raw) ∧
    (∀ ss, Text.Finds (fun s => ∃ k, Text.IsRun k s) raw ss ↔ ss = Text.digitRuns raw) ∧
    (∀ positions t, unpack? positions raw = some t → Covers positions t.parts raw) ∧
    (∀ positions, unpack? positions raw = none →
      (Template.ofParts ((runs positions raw).map Run.part)).display = raw) ∧
    ∀ positions (t : Template Element), t.hasReferences = false →
      (Covers positions t.parts raw ↔ t.display = raw) := by
  refine ⟨fun _ => Text.alternatingRuns_iff, fun _ => Text.finds_iff, ?_, ?_, ?_⟩
  · intro positions t ht
    obtain ⟨-, rfl⟩ := unpack?_eq_some_iff.1 ht
    exact covers_ofParts_runs positions raw
  · intro positions hnone
    have hplain := references_eq_nil_of_unpack?_eq_none positions hnone
    exact (covers_iff_display_eq positions hplain).1 (covers_ofParts_runs positions raw)
  · intro positions t ht
    exact covers_iff_display_eq positions (by simpa [Template.hasReferences] using ht)

end ElementSync.ConditionLogic
