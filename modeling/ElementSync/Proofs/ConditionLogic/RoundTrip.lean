import ElementSync.Proofs.ConditionLogic.Packing
import ElementSync.Proofs.Text.Numerals

/-!
# Condition logic from text and back

The positions that a text names are the numbers of its plain numerals, as far as 64 bits reach.
Unpacking turns those at which a record stands into references and lists the others as missing.
Packing with the same positions gives the text back.
-/

namespace ElementSync.ConditionLogic

/-- The position that a numeral names, if it is written plainly and fits 64 bits. -/
def index? (run : List Char) : Option Int :=
  if Text.isPlain run && decide (Text.number run < Nat.pow 2 63) then some (Text.number run)
  else none

def indices (s : String) : List Int := (Text.numerals s.toList).filterMap index?

theorem position?_ofList_of_isDigit {run : List Char} (hne : run ≠ [])
    (hrun : ∀ c ∈ run, c.isDigit = true) : position? (String.ofList run) = index? run := by
  have hnumber := Text.natOfDigits?_of_isDigit hne hrun
  rw [position?, String.toList_ofList]
  split
  case h_1 c cs =>
    simp [index?, Text.isPlain]
  case h_2 hzero =>
    have hplain : Text.isPlain run = true := by
      rcases run with _ | ⟨c, _ | ⟨d, cs⟩⟩
      · exact absurd rfl hne
      · by_cases hc : c = '0' <;> simp [Text.isPlain, hc]
      · have hc : c ≠ '0' := fun hc => hzero d cs (by rw [hc])
        simp [Text.isPlain, hc]
    rw [hnumber]
    simp [index?, hplain]

theorem position?_ofList_of_not_all {run : List Char} (hrun : run.all Char.isDigit = false) :
    position? (String.ofList run) = none := by
  obtain ⟨c, hc, hdigit⟩ := List.all_eq_false.1 hrun
  have hnumber := Text.natOfDigits?_of_mem_not_isDigit hc (by simpa using hdigit)
  rw [position?, String.toList_ofList]
  split
  · rfl
  · rw [hnumber]

/-- Reading run by run finds the positions that the text names. -/
theorem filterMap_position?_digitRuns (s : String) :
    (Text.digitRuns s).filterMap position? = indices s := by
  rw [Text.digitRuns_eq, List.filterMap_map, indices, Text.numerals_eq_filter_runs,
    List.filterMap_filter]
  apply List.filterMap_congr
  intro run hrun
  cases hall : run.all Char.isDigit with
  | false => simpa [hall] using position?_ofList_of_not_all hall
  | true =>
    have hdigits := List.all_eq_true.1 hall
    simpa [hall] using position?_ofList_of_isDigit (Text.ne_nil_of_mem_runs hrun) hdigits

example : indices "(1 AND 02) OR 13" = [1, 13] := by decide

/-- A position is named by its decimal form. -/
theorem toString_of_position? {s : String} {n : Int} (h : position? s = some n) :
    toString n = s := by
  have hs : String.ofList s.toList = s := String.ofList_toList
  cases hall : s.toList.all Char.isDigit with
  | false =>
    have hnone := position?_ofList_of_not_all hall
    rw [hs, h] at hnone
    cases hnone
  | true =>
    have hdigits := List.all_eq_true.1 hall
    have hne : s.toList ≠ [] := by
      intro hnil
      rw [position?, hnil] at h
      simp [Text.natOfDigits?] at h
    have hindex := position?_ofList_of_isDigit hne hdigits
    rw [hs, h, index?] at hindex
    split at hindex
    case isTrue hplain =>
      obtain ⟨hplain, -⟩ := Bool.and_eq_true_iff.1 hplain
      rw [Option.some.inj hindex]
      change toString (Text.number s.toList) = s
      rw [Nat.toString_eq_ofList_toDigits, Text.toDigits_number hne hdigits hplain, hs]
    case isFalse => cases hindex

/-- What a run becomes depends on the position that it names and on the record that stands
there. -/
theorem ofText_cases (positions : Positions) (s : String) :
    (position? s = none ∧ Run.ofText positions s = .text s) ∨
    (∃ n, position? s = some n ∧ positions.lookup n = none ∧
      Run.ofText positions s = .missing n s) ∨
    (∃ n e, position? s = some n ∧ positions.lookup n = some e ∧
      Run.ofText positions s = .found e) := by
  unfold Run.ofText
  cases hn : position? s with
  | none => exact Or.inl ⟨rfl, rfl⟩
  | some n =>
    cases he : positions.lookup n with
    | none => exact Or.inr (Or.inl ⟨n, rfl, he, by simp [he]⟩)
    | some e => exact Or.inr (Or.inr ⟨n, e, rfl, he, by simp [he]⟩)

section
variable (positions : Positions)

theorem references_parts (ss : List String) :
    (⟨(ss.map (Run.ofText positions)).map Run.part⟩ : Template Element).references =
      (ss.filterMap position?).filterMap fun n => (positions.lookup n).map .ofElement := by
  induction ss with
  | nil => rfl
  | cons s ss ih =>
    rcases ofText_cases positions s with ⟨hn, hs⟩ | ⟨n, hn, he, hs⟩ | ⟨n, e, hn, he, hs⟩
    · simpa [hn, hs, Run.part] using ih
    · simpa [hn, he, hs, Run.part] using ih
    · simpa [hn, he, hs, Run.part] using ih

theorem filterMap_missing? (ss : List String) :
    (ss.map (Run.ofText positions)).filterMap Run.missing? =
      (ss.filterMap position?).filter fun n => !positions.hasKey n := by
  induction ss with
  | nil => rfl
  | cons s ss ih =>
    rcases ofText_cases positions s with ⟨hn, hs⟩ | ⟨n, hn, he, hs⟩ | ⟨n, e, hn, he, hs⟩
    · rw [List.map_cons, hs, List.filterMap_cons_none rfl, List.filterMap_cons_none hn, ih]
    · have hmissing : (Run.missing n s).missing? = some n := rfl
      rw [List.map_cons, hs, List.filterMap_cons_some hmissing, List.filterMap_cons_some hn, ih,
        List.filter_cons_of_pos (by simp [Assoc.hasKey, he])]
    · rw [List.map_cons, hs, List.filterMap_cons_none rfl, List.filterMap_cons_some hn, ih,
        List.filter_cons_of_neg (by simp [Assoc.hasKey, he])]

theorem any_isFound (ss : List String) :
    (ss.map (Run.ofText positions)).any Run.isFound =
      (ss.filterMap position?).any positions.hasKey := by
  induction ss with
  | nil => rfl
  | cons s ss ih =>
    rcases ofText_cases positions s with ⟨hn, hs⟩ | ⟨n, hn, he, hs⟩ | ⟨n, e, hn, he, hs⟩
    · simpa [hn, hs, Run.isFound] using ih
    · simpa [hn, he, hs, Run.isFound, Assoc.hasKey] using ih
    · simp [hn, he, hs, Run.isFound, Assoc.hasKey]

variable {positions}

/-- Packing the runs of a text joins them, if every record is known to stand where it was
found. -/
theorem packParts_parts {position : Reference Element → Option Int} {ss : List String}
    (hposition : ∀ n ∈ ss.filterMap position?, ∀ e, positions.lookup n = some e →
      position (.ofElement e) = some n) :
    packParts position ((ss.map (Run.ofText positions)).map Run.part) = .ok (String.join ss) := by
  induction ss with
  | nil => rfl
  | cons s ss ih =>
    have hrest := ih fun n hn e he => hposition n (by
      cases hs : position? s <;> simp [hs, hn]) e he
    rcases ofText_cases positions s with ⟨hn, hs⟩ | ⟨n, hn, he, hs⟩ | ⟨n, e, hn, he, hs⟩
    · rw [List.map_cons, List.map_cons, hs, Run.part, packParts_literal_cons, hrest]
      simp [Except.map]
    · rw [List.map_cons, List.map_cons, hs, Run.part, packParts_literal_cons, hrest]
      simp [Except.map]
    · have hp : position (.ofElement e) = some n := hposition n (by simp [hn]) e he
      rw [List.map_cons, List.map_cons, hs, Run.part, packParts_reference_cons position hp, hrest,
        toString_of_position? hn]
      simp [Except.map]

end

theorem unpack?_eq_some_iff {positions : Positions} {raw : String} {t : Template Element} :
    unpack? positions raw = some t ↔
      (∃ n ∈ indices raw, positions.hasKey n) ∧
        .ofParts ((runs positions raw).map Run.part) = t := by
  have hany := any_isFound positions (Text.digitRuns raw)
  rw [filterMap_position?_digitRuns] at hany
  simp [unpack?, runs, hany, List.any_eq_true]

/-- A reference in unpacked logic is one to the record at a position that the text names. -/
theorem mem_references_unpack? {positions : Positions} {raw : String} {t : Template Element}
    (ht : unpack? positions raw = some t) {r : Reference Element} :
    r ∈ t.references ↔
      ∃ n ∈ indices raw, ∃ e, positions.lookup n = some e ∧ r = .ofElement e := by
  obtain ⟨-, rfl⟩ := unpack?_eq_some_iff.1 ht
  rw [Template.references_ofParts, runs, references_parts, filterMap_position?_digitRuns,
    List.mem_filterMap]
  simp only [Option.map_eq_some_iff, eq_comm]

/-- Unpacking finds exactly the records at the positions that a text names, and packing undoes
it. -/
theorem pack_unpack? (positions : Positions) (raw : String) :
    (∀ (position : Reference Element → Option Int) (t : Template Element),
      (∀ n ∈ indices raw, ∀ e, positions.lookup n = some e → position (.ofElement e) = some n) →
      unpack? positions raw = some t → pack position t = .ok raw) ∧
    ((unpack? positions raw).isSome ↔ ∃ n ∈ indices raw, positions.hasKey n) ∧
    (∀ t, unpack? positions raw = some t →
      t.references = (indices raw).filterMap fun n => (positions.lookup n).map .ofElement) ∧
    missing positions raw = (indices raw).filter fun n => !positions.hasKey n := by
  refine ⟨?_, ?_, ?_, ?_⟩
  · intro position t hposition ht
    obtain ⟨-, rfl⟩ := unpack?_eq_some_iff.1 ht
    rw [← filterMap_position?_digitRuns] at hposition
    rw [pack_ofParts, runs, packParts_parts hposition, Text.join_digitRuns]
  · rw [Option.isSome_iff_exists]
    constructor
    · rintro ⟨t, ht⟩
      exact (unpack?_eq_some_iff.1 ht).1
    · intro h
      exact ⟨_, unpack?_eq_some_iff.2 ⟨h, rfl⟩⟩
  · intro t ht
    obtain ⟨-, rfl⟩ := unpack?_eq_some_iff.1 ht
    rw [Template.references_ofParts, runs, references_parts, filterMap_position?_digitRuns]
  · rw [missing, runs, filterMap_missing?, filterMap_position?_digitRuns]

end ElementSync.ConditionLogic
