import ElementSync.Client.InMemory
import ElementSync.Filter.Basic
import Mathlib.Data.Prod.Lex
import Mathlib.Order.MinMax

/-!
# Times of the last change over a fetch

What a fetch leaves for one name depends on what was there before and on the times that come in for
the name, in their order. One instance and its type hold what is left, in the place of whatever has
their type.
-/

namespace ElementSync

instance : LinearOrder Instant :=
  LinearOrder.lift' (fun t => toLex (t.seconds, t.nanos)) fun a b h => by
    obtain ⟨hseconds, hnanos⟩ := Prod.mk.inj (toLex.injective h)
    cases a
    cases b
    exact congrArg₂ Instant.mk hseconds hnanos

instance : Std.LawfulOrderMax Instant where
  max_le_iff _ _ _ := max_le_iff
  max_eq_or := max_choice

theorem Instant.le_eq_true_iff {a b : Instant} : a.le b = true ↔ a ≤ b := by
  have hlex : a ≤ b ↔ a.seconds < b.seconds ∨ a.seconds = b.seconds ∧ a.nanos ≤ b.nanos :=
    Prod.Lex.toLex_le_toLex
  rw [hlex, Instant.le]
  simp

namespace ChangeTimes
variable {es : List Element} {source : ElementSource} {typeName name : String}

def valueAt? (times : Values Element) (typeName name : String) : Option (Value Element) :=
  (timesOf times typeName).lookup name

def later (current : Option (Value Element)) (time : String) : Option (Value Element) :=
  if (current.bind Value.text?).any (!isNewer time ·) then current else some (.text time)

theorem timesOf_put (times byName : Values Element) (typeName typeName' : String) :
    timesOf (Assoc.put times typeName (.mapping byName)) typeName' =
      if typeName' = typeName then byName else timesOf times typeName' := by
  rw [timesOf, Assoc.lookup_put]
  split
  · rfl
  · rfl

/-- A record changes what is written for its own name only. -/
theorem valueAt?_record (times : Values Element) (e : Entry) (typeName name : String) :
    valueAt? (record times e) typeName name =
      if e.typeName = typeName ∧ e.name = name then later (valueAt? times typeName name) e.time
      else valueAt? times typeName name := by
  by_cases hold : ((valueAt? times e.typeName e.name).bind Value.text?).any (!isNewer e.time ·)
  · have hrecord : record times e = times := if_pos hold
    rw [hrecord]
    split
    case isTrue h =>
      obtain ⟨rfl, rfl⟩ := h
      rw [later, if_pos hold]
    case isFalse => rfl
  · have hrecord : record times e = Assoc.put times e.typeName
        (.mapping (Assoc.put (timesOf times e.typeName) e.name (.text e.time))) := if_neg hold
    rw [hrecord, valueAt?, timesOf_put]
    by_cases htype : typeName = e.typeName
    · subst htype
      rw [if_pos rfl, Assoc.lookup_put]
      by_cases hname : name = e.name
      · subst hname
        rw [if_pos rfl, if_pos ⟨rfl, rfl⟩, later, if_neg hold]
      · rw [if_neg hname, if_neg fun h => hname h.2.symm, valueAt?]
    · rw [if_neg htype, if_neg fun h => htype h.1.symm, valueAt?]

def annotated (es : List Element) (typeName name : String) : List String :=
  ((es.filterMap entry?).filter fun e => e.typeName = typeName && e.name = name).map Entry.time

def merged (source : ElementSource) (es : List Element) : Values Element :=
  (es.filterMap entry?).foldl record ((previous? source).getD [])

theorem valueAt?_foldl_record (entries : List Entry) (times : Values Element)
    (typeName name : String) :
    valueAt? (entries.foldl record times) typeName name =
      ((entries.filter fun e => e.typeName = typeName && e.name = name).map Entry.time).foldl later
        (valueAt? times typeName name) := by
  induction entries generalizing times with
  | nil => rfl
  | cons e entries ih =>
    rw [List.foldl_cons, ih, valueAt?_record, List.filter_cons]
    by_cases h : e.typeName = typeName ∧ e.name = name
    · simp [h]
    · rw [if_neg h, if_neg (by simpa using h)]

theorem valueAt?_merged (source : ElementSource) (es : List Element) (typeName name : String) :
    valueAt? (merged source es) typeName name = (annotated es typeName name).foldl later
      (valueAt? ((previous? source).getD []) typeName name) :=
  valueAt?_foldl_record ..

/-! ### What a fetch leaves -/

/-- There is a time to write, or there are times from before. -/
def Writes (source : ElementSource) (es : List Element) : Prop :=
  es.filterMap entry? ≠ [] ∨ (previous? source).isSome

theorem update_of_not_writes (h : ¬ Writes source es) : update source es = es := by
  rw [Writes, not_or, Ne, Classical.not_not] at h
  obtain ⟨hentries, hprevious⟩ := h
  rw [Option.not_isSome_iff_eq_none] at hprevious
  rw [update, if_pos]
  simp [hentries, hprevious]

theorem update_of_writes (h : Writes source es) : update source es =
    es.filter (·.id.typeName ≠ singletonType) ++
      [.objectType type, .inst (singleton (merged source es))] := by
  have hsome : ¬ ((es.filterMap entry?).isEmpty && (previous? source).isNone) := by
    intro hnone
    obtain ⟨hentries, hprevious⟩ := Bool.and_eq_true_iff.1 hnone
    rcases h with h | h
    · exact h (List.isEmpty_iff.1 hentries)
    · rw [Option.isNone_iff_eq_none.1 hprevious] at h
      cases h
  rw [update, if_neg hsome]
  rfl

/-- The instance and its type take the place of whatever has their type. -/
theorem filter_update_of_writes (h : Writes source es) :
    (update source es).filter (·.id.typeName = singletonType) =
      [.objectType type, .inst (singleton (merged source es))] ∧
    (update source es).filter (·.id.typeName ≠ singletonType) =
      es.filter (·.id.typeName ≠ singletonType) := by
  have hown : ∀ e ∈ [Element.objectType type, .inst (singleton (merged source es))],
      e.id.typeName = singletonType := by
    intro e he
    simp only [List.mem_cons, List.not_mem_nil, or_false] at he
    rcases he with rfl | rfl <;> rfl
  rw [update_of_writes h, List.filter_append, List.filter_append, List.filter_filter,
    List.filter_filter]
  constructor
  · rw [List.filter_eq_nil_iff.2 (by simp), List.nil_append, List.filter_eq_self]
    intro e he
    exact decide_eq_true (hown e he)
  · have hnone : [Element.objectType type, .inst (singleton (merged source es))].filter
        (·.id.typeName ≠ singletonType) = [] :=
      List.filter_eq_nil_iff.2 fun e he => by simp [hown e he]
    rw [hnone, List.append_nil]
    simp

/-! ### Which time stays -/

theorem isNewer_of_parse? {candidate current : String} {new old : Instant}
    (hnew : Instant.parse? candidate = some new) (hold : Instant.parse? current = some old) :
    isNewer candidate current = true ↔ old ≤ new := by
  rw [isNewer, hnew, hold]
  exact Instant.le_eq_true_iff

theorem isNewer_of_parse?_eq_none {candidate current : String}
    (h : Instant.parse? candidate = none ∨ Instant.parse? current = none) :
    isNewer candidate current = true := by
  rw [isNewer]
  rcases h with h | h
  · rw [h]
  · rw [h]
    cases Instant.parse? candidate <;> rfl

theorem later_text (current time : String) : later (some (.text current)) time =
    some (.text (if isNewer time current then time else current)) := by
  rw [later]
  simp only [Option.bind_some, Value.text, Value.text?, Option.any_some, Bool.not_eq_true']
  cases isNewer time current <;> rfl

theorem mem_annotated {time : String} : time ∈ annotated es typeName name ↔
    ∃ e ∈ es, entry? e = some ⟨typeName, name, time⟩ := by
  rw [annotated, List.mem_map]
  constructor
  · rintro ⟨entry, hentry, rfl⟩
    obtain ⟨hmem, hnames⟩ := List.mem_filter.1 hentry
    obtain ⟨e, he, heq⟩ := List.mem_filterMap.1 hmem
    obtain ⟨rfl, rfl⟩ : entry.typeName = typeName ∧ entry.name = name := by simpa using hnames
    exact ⟨e, he, heq⟩
  · rintro ⟨e, he, heq⟩
    exact ⟨_, List.mem_filter.2 ⟨List.mem_filterMap.2 ⟨e, he, heq⟩, by simp⟩, rfl⟩

theorem annotated_ne_nil_iff : annotated es typeName name ≠ [] ↔
    ∃ e ∈ es, ∃ time, entry? e = some ⟨typeName, name, time⟩ := by
  constructor
  · intro h
    obtain ⟨time, htime⟩ := List.exists_mem_of_ne_nil _ h
    obtain ⟨e, he, hentry⟩ := mem_annotated.1 htime
    exact ⟨e, he, time, hentry⟩
  · rintro ⟨e, he, time, hentry⟩
    exact List.ne_nil_of_mem (mem_annotated.2 ⟨e, he, hentry⟩)

/-! ### A profile and what is known of it -/

def knownTimes : Values Element :=
  [("Profile", .mapping [("Admin", .text "2023-04-01T00:00:00Z")]),
    ("Flow", .mapping [("Sync", .text "2023-03-01T00:00:00Z")])]

def lastFetch : FilterContext where
  source := ElementGraph.source ⟨[.inst (singleton knownTimes)]⟩

def adminProfile (name time : String) : Element := .inst
  { name
    type := { id := .type salesforce "Profile" }
    value := [(fullNameField, .text "Admin")]
    annotations := [(AnnotationKey.changedAt, .text time)] }

theorem previous?_lastFetch : previous? lastFetch.source = some knownTimes := rfl

end ChangeTimes

end ElementSync
