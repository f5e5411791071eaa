import ElementSync.Proofs.Fetch.ChangeTimes
import Mathlib.Data.List.Induction

/-!
# Times that go back

A time that cannot be read takes the place of any other, and what was there before is forgotten. So
a time from before goes back unless a time that is not before it comes in behind.
-/

namespace ElementSync

namespace ChangeTimes
variable {start : Instant} {typeName name : String}

def NotBefore (start : Instant) (time : String) : Prop :=
  ∃ t, Instant.parse? time = some t ∧ start ≤ t

/-- Behind every time that cannot be read comes one that is not before a start. -/
def Recovers (start : Instant) (times : List String) : Prop :=
  ∀ bad rest, bad :: rest <:+ times → Instant.parse? bad = none →
    ∃ time ∈ rest, NotBefore start time

theorem isSome_parse?_of_notBefore {time : String} (h : NotBefore start time) :
    (Instant.parse? time).isSome := by
  obtain ⟨t, ht, -⟩ := h
  rw [ht]
  rfl

/-- A time that cannot be read wipes out the one before it; of two others the later one stays. -/
theorem notBefore_ite_isNewer (current time : String) :
    NotBefore start (if isNewer time current then time else current) ↔
      (Instant.parse? time).isSome ∧ (NotBefore start current ∨ NotBefore start time) := by
  cases hnew : Instant.parse? time with
  | none =>
    rw [if_pos (isNewer_of_parse?_eq_none (.inl hnew))]
    simp [NotBefore, hnew]
  | some new =>
    cases hold : Instant.parse? current with
    | none =>
      rw [if_pos (isNewer_of_parse?_eq_none (.inr hold))]
      simp [NotBefore, hnew, hold]
    | some old =>
      by_cases hle : old ≤ new
      · rw [if_pos ((isNewer_of_parse? hnew hold).2 hle)]
        simp only [NotBefore, hnew, hold, Option.some.injEq, exists_eq_left', Option.isSome_some,
          true_and]
        exact ⟨Or.inr, fun h => h.elim (·.trans hle) fun h => h⟩
      · rw [if_neg (mt (isNewer_of_parse? hnew hold).1 hle)]
        simp only [NotBefore, hnew, hold, Option.some.injEq, exists_eq_left', Option.isSome_some,
          true_and]
        exact ⟨Or.inl, fun h => h.elim (fun h => h) (·.trans (le_of_not_ge hle))⟩

theorem recovers_concat_iff {times : List String} {time : String} :
    Recovers start (times ++ [time]) ↔
      (Instant.parse? time).isSome ∧ (Recovers start times ∨ NotBefore start time) := by
  constructor
  · intro h
    have hsome : (Instant.parse? time).isSome := by
      by_contra hnone
      obtain ⟨later, hlater, -⟩ :=
        h time [] (List.suffix_append ..) (Option.not_isSome_iff_eq_none.1 hnone)
      cases hlater
    refine ⟨hsome, or_iff_not_imp_right.2 fun hbefore bad rest hsuffix hbad => ?_⟩
    obtain ⟨front, rfl⟩ := hsuffix
    obtain ⟨later, hlater, hnotBefore⟩ := h bad (rest ++ [time]) ⟨front, by simp⟩ hbad
    rcases List.mem_append.1 hlater with hmem | hmem
    · exact ⟨later, hmem, hnotBefore⟩
    · exact absurd (List.mem_singleton.1 hmem ▸ hnotBefore) hbefore
  · rintro ⟨hsome, h⟩ bad rest hsuffix hbad
    obtain hnil | ⟨rest', hrest, hsuffix'⟩ := List.suffix_concat_iff.1 hsuffix
    · cases hnil
    cases rest' with
    | nil =>
      obtain rfl : bad = time := (List.cons.inj hrest).1
      rw [hbad] at hsome
      cases hsome
    | cons first rest' =>
      obtain ⟨rfl, rfl⟩ := List.cons.inj hrest
      rcases h with h | h
      · obtain ⟨later, hlater, hnotBefore⟩ := h bad rest' hsuffix' hbad
        exact ⟨later, List.mem_append_left _ hlater, hnotBefore⟩
      · exact ⟨time, List.mem_concat_self, h⟩

/-- A time that was written stays or gives way to another, which is not before it just when the
times that come in recover from those that cannot be read. -/
theorem foldl_later_text {recorded : String} (hstart : NotBefore start recorded)
    (times : List String) : ∃ kept, times.foldl later (some (.text recorded)) = some (.text kept) ∧
      (NotBefore start kept ↔ Recovers start times) := by
  induction times using List.reverseRecOn with
  | nil =>
    refine ⟨recorded, rfl, iff_of_true hstart fun bad rest hsuffix => ?_⟩
    cases List.suffix_nil.1 hsuffix
  | append_singleton times time ih =>
    obtain ⟨kept, hkept, hiff⟩ := ih
    refine ⟨if isNewer time kept then time else kept, ?_, ?_⟩
    · rw [List.foldl_append, hkept, List.foldl_cons, List.foldl_nil, later_text]
    · rw [notBefore_ite_isNewer, recovers_concat_iff, hiff]

/-- A time from before can always be found again after a fetch. It has not gone back just when
behind every time for the same name that cannot be read comes one that is not before it. -/
theorem onFetch_keeps_time_iff {σ : Type} (client : Client σ) (context : FilterContext)
    (s : Session σ) (es : List Element) {previous : Values Element}
    (hprevious : previous? context.source = some previous) {recorded : String}
    (hrecorded : valueAt? previous typeName name = some (.text recorded))
    (hstart : Instant.parse? recorded = some start) :
    let left := (Filter.onFetch client context es .changeTimes s).1.left
    ∃ times kept, left.filter (·.id.typeName = singletonType) =
        [.objectType type, .inst (singleton times)] ∧
      valueAt? times typeName name = some (.text kept) ∧
      (NotBefore start kept ↔ Recovers start (annotated es typeName name)) := by
  intro left
  have hwrites : Writes context.source es := .inr (by rw [hprevious]; rfl)
  obtain ⟨kept, hkept, hiff⟩ :=
    foldl_later_text ⟨start, hstart, le_refl start⟩ (annotated es typeName name)
  refine ⟨_, kept, (filter_update_of_writes hwrites).1, ?_, hiff⟩
  rw [valueAt?_merged, hprevious, Option.getD_some, hrecorded, hkept]

/-- The midnight that is known of the profile. -/
def midnight : Instant := ⟨63847526400, 0⟩

theorem parse?_midnight : Instant.parse? "2023-04-01T00:00:00Z" = some midnight := by
  decide +kernel

/-- One time of the profile cannot be read, but a later one comes behind it. -/
theorem onFetch_keeps_time_iff_admin :
    let es := [adminProfile "Admin" "yesterday", adminProfile "Standard" "2023-04-02T00:00:00Z"]
    previous? lastFetch.source = some knownTimes ∧
    valueAt? knownTimes "Profile" "Admin" = some (.text "2023-04-01T00:00:00Z") ∧
    Instant.parse? "2023-04-01T00:00:00Z" = some midnight ∧
    ∃ times kept, (Filter.onFetch (InMemory.client {}) lastFetch es .changeTimes
        { state := 0 }).1.left.filter (·.id.typeName = singletonType) =
          [.objectType type, .inst (singleton times)] ∧
      valueAt? times "Profile" "Admin" = some (.text kept) ∧ NotBefore midnight kept := by
  intro es
  have hrecorded : valueAt? knownTimes "Profile" "Admin" =
      some (.text "2023-04-01T00:00:00Z") := rfl
  have hannotated : annotated es "Profile" "Admin" = ["yesterday"] ++ ["2023-04-02T00:00:00Z"] := by
    decide +kernel
  have hnext : NotBefore midnight "2023-04-02T00:00:00Z" :=
    ⟨⟨63847612800, 0⟩, by decide +kernel, by decide +kernel⟩
  obtain ⟨times, kept, hleft, hkept, hiff⟩ := onFetch_keeps_time_iff (InMemory.client {}) lastFetch
    { state := 0 } es previous?_lastFetch hrecorded parse?_midnight
  rw [hannotated] at hiff
  have hrecovers : Recovers midnight (["yesterday"] ++ ["2023-04-02T00:00:00Z"]) :=
    recovers_concat_iff.2 ⟨isSome_parse?_of_notBefore hnext, .inr hnext⟩
  exact ⟨previous?_lastFetch, hrecorded, parse?_midnight, times, kept, hleft, hkept,
    hiff.2 hrecovers⟩

/-- The time that was known of the profile is gone. -/
theorem onFetch_forgets_time :
    previous? lastFetch.source = some knownTimes ∧
    valueAt? knownTimes "Profile" "Admin" = some (.text "2023-04-01T00:00:00Z") ∧
    (Instant.parse? "2023-04-01T00:00:00Z").isSome ∧
    ∃ times, (Filter.onFetch (InMemory.client {}) lastFetch [adminProfile "Admin" "yesterday"]
        .changeTimes { state := 0 }).1.left.filter (·.id.typeName = singletonType) =
          [.objectType type, .inst (singleton times)] ∧
      valueAt? times "Profile" "Admin" = some (.text "yesterday") ∧
      Instant.parse? "yesterday" = none := by
  have hwrites : Writes lastFetch.source [adminProfile "Admin" "yesterday"] := .inr rfl
  refine ⟨previous?_lastFetch, rfl, by decide +kernel, _, (filter_update_of_writes hwrites).1, ?_,
    by decide +kernel⟩
  have hannotated : annotated [adminProfile "Admin" "yesterday"] "Profile" "Admin" =
      ["yesterday"] := by
    decide +kernel
  have hnewer : isNewer "yesterday" "2023-04-01T00:00:00Z" = true := by decide +kernel
  have hbefore : valueAt? knownTimes "Profile" "Admin" =
      some (.text "2023-04-01T00:00:00Z") := rfl
  rw [valueAt?_merged, hannotated, previous?_lastFetch, Option.getD_some, hbefore, List.foldl_cons,
    later_text, hnewer]
  rfl

end ChangeTimes

end ElementSync
