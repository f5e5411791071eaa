import ElementSync.Proofs.Fetch.ChangeTimes

/-!
# The latest times

Where all times can be read, a fetch leaves the latest time of every name. Since a maximum does not
depend on the order, neither do the times of a fetch on the order of its elements.
-/

namespace ElementSync

namespace ChangeTimes
variable {times : Values Element} {es : List Element}

def instant? (value : Option (Value Element)) : Option Instant :=
  (value.bind Value.text?).bind Instant.parse?

def IsTime (value : Option (Value Element)) : Prop :=
  ∀ v, value = some v → ∃ time, v = .text time ∧ (Instant.parse? time).isSome

/-- Of two times that can be read the later one stays. -/
theorem later_of_isTime {current : Option (Value Element)} (hcurrent : IsTime current)
    {time : String} {new : Instant} (hnew : Instant.parse? time = some new) :
    ∃ kept, later current time = some (.text kept) ∧
      Instant.parse? kept = some ((instant? current).elim new (max · new)) := by
  cases current with
  | none => exact ⟨time, rfl, hnew⟩
  | some v =>
    obtain ⟨before, rfl, hbefore⟩ := hcurrent v rfl
    obtain ⟨old, hold⟩ := Option.isSome_iff_exists.1 hbefore
    have hinstant : instant? (some (.text before)) = some old := hold
    refine ⟨_, later_text before time, ?_⟩
    rw [hinstant, Option.elim_some]
    by_cases hle : old ≤ new
    · rw [if_pos ((isNewer_of_parse? hnew hold).2 hle), hnew, max_eq_right hle]
    · rw [if_neg (mt (isNewer_of_parse? hnew hold).1 hle), hold, max_eq_left (le_of_not_ge hle)]

/-- Of all times the latest stays. -/
theorem foldl_later_of_isTime {current : Option (Value Element)} (hcurrent : IsTime current)
    {times : List String} (htimes : ∀ time ∈ times, (Instant.parse? time).isSome) :
    IsTime (times.foldl later current) ∧
    ((times.foldl later current).isSome ↔ current.isSome ∨ times ≠ []) ∧
    instant? (times.foldl later current) =
      ((instant? current).toList ++ times.filterMap Instant.parse?).max? := by
  induction times generalizing current with
  | nil =>
    refine ⟨hcurrent, by simp, ?_⟩
    rw [List.foldl_nil, List.filterMap_nil, List.append_nil]
    cases instant? current <;> rfl
  | cons time times ih =>
    obtain ⟨htime, htimes⟩ := List.forall_mem_cons.1 htimes
    obtain ⟨new, hnew⟩ := Option.isSome_iff_exists.1 htime
    obtain ⟨kept, hlater, hkept⟩ := later_of_isTime hcurrent hnew
    have hisTime : IsTime (later current time) := by
      rintro v hv
      rw [hlater] at hv
      exact ⟨kept, (Option.some.inj hv).symm, by rw [hkept]; rfl⟩
    obtain ⟨hresult, hsome, hinstant⟩ := ih hisTime htimes
    refine ⟨hresult, ?_, ?_⟩
    · rw [List.foldl_cons, hsome, hlater]
      simp
    · have hfirst : instant? (later current time) =
          some ((instant? current).elim new (max · new)) := by
        rw [hlater]
        exact hkept
      rw [List.foldl_cons, hinstant, hfirst, List.filterMap_cons_some hnew]
      -- a maximum is taken step by step, and the time that comes in is the first step
      cases instant? current <;> rfl

theorem annotated_perm {ds : List Element} (h : ds.Perm es) (typeName name : String) :
    (annotated ds typeName name).Perm (annotated es typeName name) :=
  ((h.filterMap _).filter _).map _

theorem max?_eq_of_perm {l l' : List Instant} (h : l.Perm l') : l.max? = l'.max? := by
  refine Option.ext fun t => ?_
  rw [List.max?_eq_some_iff, List.max?_eq_some_iff]
  simp only [h.mem_iff]

def IsReadable (times : Values Element) : Prop :=
  ∀ p ∈ times, ∃ byName, p.2 = .mapping byName ∧
    ∀ q ∈ byName, ∃ time, q.2 = .text time ∧ (Instant.parse? time).isSome

theorem IsReadable.isTime (h : IsReadable times) (typeName name : String) :
    IsTime (valueAt? times typeName name) := by
  intro v hv
  rw [valueAt?, timesOf] at hv
  cases hvalue : times.lookup typeName with
  | none =>
    rw [hvalue] at hv
    cases hv
  | some value =>
    obtain ⟨byName, rfl, hbyName⟩ := h _ (Assoc.mem_of_lookup hvalue)
    rw [hvalue] at hv
    exact hbyName _ (Assoc.mem_of_lookup hv)

/-- A fetch whose times can all be read keeps the latest time of every name, in whatever order the
elements come. It leaves one instance with the times and its type, and all else as it was. -/
theorem onFetch_keeps_latest {σ : Type} (client : Client σ) (context : FilterContext)
    (s : Session σ)
    (hprevious : ∀ previous, previous? context.source = some previous → IsReadable previous)
    (hes : ∀ entry ∈ es.filterMap entry?, (Instant.parse? entry.time).isSome) :
    let left := (Filter.onFetch client context es .changeTimes s).1.left
    let previous := (previous? context.source).getD []
    let times := merged context.source es
    (∀ typeName name,
      IsTime (valueAt? times typeName name) ∧
      ((valueAt? times typeName name).isSome ↔ (valueAt? previous typeName name).isSome ∨
        ∃ e ∈ es, ∃ time, entry? e = some ⟨typeName, name, time⟩) ∧
      instant? (valueAt? times typeName name) =
        ((instant? (valueAt? previous typeName name)).toList ++
          (annotated es typeName name).filterMap Instant.parse?).max? ∧
      ((∀ e ∈ es, ∀ time, entry? e ≠ some ⟨typeName, name, time⟩) →
        valueAt? times typeName name = valueAt? previous typeName name) ∧
      ∀ ds : List Element, ds.Perm es →
        instant? (valueAt? (merged context.source ds) typeName name) =
          instant? (valueAt? times typeName name)) ∧
    (Writes context.source es →
      left.filter (·.id.typeName = singletonType) = [.objectType type, .inst (singleton times)] ∧
      left.filter (·.id.typeName ≠ singletonType) =
        es.filter (·.id.typeName ≠ singletonType)) ∧
    (¬ Writes context.source es → left = es) := by
  intro left previous times
  have hreadable : IsReadable previous := by
    cases h : previous? context.source with
    | none =>
      have hnil : previous = [] := by simp [previous, h]
      rw [hnil]
      exact fun p hp => by cases hp
    | some known =>
      have hknown : previous = known := by simp [previous, h]
      exact hknown ▸ hprevious known h
  refine ⟨fun typeName name => ?_, filter_update_of_writes, update_of_not_writes⟩
  -- any arrangement of the elements carries the same times
  have hmerged : ∀ ds : List Element, ds.Perm es →
      IsTime (valueAt? (merged context.source ds) typeName name) ∧
      ((valueAt? (merged context.source ds) typeName name).isSome ↔
        (valueAt? previous typeName name).isSome ∨ annotated ds typeName name ≠ []) ∧
      instant? (valueAt? (merged context.source ds) typeName name) =
        ((instant? (valueAt? previous typeName name)).toList ++
          (annotated ds typeName name).filterMap Instant.parse?).max? := by
    intro ds hds
    rw [valueAt?_merged]
    refine foldl_later_of_isTime (hreadable.isTime typeName name) fun time htime => ?_
    obtain ⟨e, he, hentry⟩ := mem_annotated.1 htime
    exact hes ⟨typeName, name, time⟩ (List.mem_filterMap.2 ⟨e, hds.mem_iff.1 he, hentry⟩)
  obtain ⟨hisTime, hsome, hinstant⟩ := hmerged es (.refl es)
  refine ⟨hisTime, hsome.trans (or_congr_right annotated_ne_nil_iff), hinstant, fun hnone => ?_,
    fun ds hds => ?_⟩
  · have hempty : annotated es typeName name = [] := by
      by_contra hne
      obtain ⟨e, he, time, hentry⟩ := annotated_ne_nil_iff.1 hne
      exact hnone e he time hentry
    rw [valueAt?_merged, hempty]
    rfl
  · rw [(hmerged ds hds).2.2, hinstant]
    exact max?_eq_of_perm (((annotated_perm hds typeName name).filterMap _).append_left _)

def adminsFetched : List Element :=
  [adminProfile "Admin" "2023-04-01T02:30:00+02:00",
    .objectType { id := .type salesforce singletonType },
    adminProfile "Standard" "2023-04-01T00:15:00Z"]

theorem isReadable_knownTimes : IsReadable knownTimes := by
  intro p hp
  simp only [knownTimes, List.mem_cons, List.not_mem_nil, or_false] at hp
  rcases hp with rfl | rfl
  all_goals
    refine ⟨_, rfl, fun q hq => ?_⟩
    obtain rfl := List.mem_singleton.1 hq
    exact ⟨_, rfl, by decide +kernel⟩

theorem onFetch_keeps_latest_admin :
    let times := merged lastFetch.source adminsFetched
    (∀ previous, previous? lastFetch.source = some previous → IsReadable previous) ∧
    (∀ entry ∈ adminsFetched.filterMap entry?, (Instant.parse? entry.time).isSome) ∧
    instant? (valueAt? times "Profile" "Admin") = Instant.parse? "2023-04-01T00:30:00Z" ∧
    instant? (valueAt? (merged lastFetch.source adminsFetched.reverse) "Profile" "Admin") =
      Instant.parse? "2023-04-01T00:30:00Z" ∧
    valueAt? times "Flow" "Sync" = some (.text "2023-03-01T00:00:00Z") ∧
    (Filter.onFetch (InMemory.client {}) lastFetch adminsFetched .changeTimes
        { state := 0 }).1.left.filter (·.id.typeName = singletonType) =
      [.objectType type, .inst (singleton times)] := by
  intro times
  have hprevious : ∀ previous, previous? lastFetch.source = some previous →
      IsReadable previous := by
    intro previous h
    rw [previous?_lastFetch] at h
    obtain rfl := Option.some.inj h
    exact isReadable_knownTimes
  have hes : ∀ entry ∈ adminsFetched.filterMap entry?, (Instant.parse? entry.time).isSome := by
    decide +kernel
  obtain ⟨hnames, hwrites, -⟩ :=
    onFetch_keeps_latest (InMemory.client {}) lastFetch { state := 0 } hprevious hes
  obtain ⟨-, -, hlatest, -, hperm⟩ := hnames "Profile" "Admin"
  obtain ⟨-, -, -, hunchanged, -⟩ := hnames "Flow" "Sync"
  have hinstant : instant? (valueAt? times "Profile" "Admin") =
      Instant.parse? "2023-04-01T00:30:00Z" := by
    rw [hlatest, previous?_lastFetch]
    decide +kernel
  refine ⟨hprevious, hes, hinstant, ?_, ?_, (hwrites (.inr rfl)).1⟩
  · exact (hperm _ (List.reverse_perm _)).trans hinstant
  · have hnone : annotated adminsFetched "Flow" "Sync" = [] := by decide +kernel
    refine hunchanged fun e he time hentry => ?_
    have hmem := mem_annotated.2 ⟨e, he, hentry⟩
    rw [hnone] at hmem
    cases hmem

end ChangeTimes

end ElementSync
