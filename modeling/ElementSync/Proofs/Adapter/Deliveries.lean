import ElementSync.Proofs.Adapter.SentConditions
import ElementSync.Proofs.Client.Creates

/-!
# What becomes of references to other groups

A client that creates what it is sent is sent every addition of a group. On the way the records are
packed, given provisional logic and linked, but a reference to an element outside the group stays
until the record is resolved, and is resolved to what is known of its target then.
-/

namespace ElementSync

/-- A record that goes out for another one, which may refer to elements other than `ids`. -/
structure RecordChange.GoesOutFor (ids : List ElementId) (e d : RecordChange) : Prop where
  id_eq : e.id = d.id
  keys : Assoc.keys e.data.value = Assoc.keys d.data.value
  get?_eq : ∀ key (r : Reference Element), d.data.get? key = some (.reference r) →
    r.target ∉ ids → e.data.get? key = some (.reference r)

namespace RecordChange
variable {f : Instance Element → Instance Element} (hf : ∀ i : Instance Element, i.PacksInto (f i))
include hf

theorem goesOutFor_mapAfter (ids : List ElementId) (d : RecordChange) :
    GoesOutFor ids (mapAfter f d) d where
  id_eq := id_mapAfter hf d
  keys := (packsInto_mapAfter hf d).keys
  get?_eq _ _ hr _ := (packsInto_mapAfter hf d).get?_of_reference hr

end RecordChange

namespace Approval
variable {changes : List RecordChange} {ids : List ElementId} {a : BatchAnswer}
  {d e : RecordChange}

theorem goesOutFor_provisional (h : e.GoesOutFor ids d) : (provisional e).GoesOutFor ids d := by
  by_cases hcustom : hasCustomLogic e.data
  case neg => rwa [provisional, if_neg hcustom]
  case pos =>
    have hlogic := get?_of_hasCustomLogic hcustom
    constructor
    · rw [id_provisional, h.id_eq]
    · rw [provisional, if_pos hcustom, Change.data_map]
      exact (Assoc.keys_put_of_mem (Instance.mem_keys_of_get? hlogic) _).trans h.keys
    · intro key r hr htarget
      have hkept := h.get?_eq key r hr htarget
      have hne : key ≠ conditionsMetField := by
        rintro rfl
        rw [hlogic] at hkept
        cases hkept
      rw [provisional, if_pos hcustom, Change.data_map, Instance.get?_set, if_neg hne, hkept]

theorem action_provisional (c : RecordChange) : (provisional c).action = c.action := by
  unfold provisional
  split
  · exact Change.action_map _ c
  · rfl

theorem ruleOf?_eq_some {i : ElementId} (h : ruleOf? changes d = some i) :
    i ∈ (changes.filter isRule).map RecordChange.id ∧
      ∃ r, d.data.get? ruleField = some (.reference r) ∧ r.target = i := by
  obtain ⟨v, hv, h⟩ := Option.bind_eq_some_iff.1 h
  obtain ⟨r, hr, h⟩ := Option.bind_eq_some_iff.1 h
  obtain ⟨hmem, h⟩ := Option.ite_none_right_eq_some.1 h
  cases h
  cases v with
  | reference r' =>
    cases hr
    exact ⟨hmem, r, hv, rfl⟩
  | _ => cases hr

/-- Only a reference to a rule of the list gives way to an identifier. -/
theorem goesOutFor_link (h : e.GoesOutFor (changes.map RecordChange.id) d) :
    (e.write ((link? changes a d).map (ruleField, ·)).toList).GoesOutFor
      (changes.map RecordChange.id) d := by
  cases hlink : link? changes a d with
  | none => exact e.write_nil.symm ▸ h
  | some v =>
    obtain ⟨i, hi, -⟩ := Option.bind_eq_some_iff.1 hlink
    obtain ⟨hmem, r, hr, rfl⟩ := ruleOf?_eq_some hi
    have hmember : r.target ∈ changes.map RecordChange.id :=
      (List.filter_sublist.map RecordChange.id).subset hmem
    have hkey : ruleField ∈ Assoc.keys e.data.value := by
      rw [h.keys]
      exact Instance.mem_keys_of_get? hr
    constructor
    · rw [RecordChange.id_write, h.id_eq]
    · rw [RecordChange.data_write]
      exact (Assoc.keys_put_of_mem hkey v).trans h.keys
    · intro key r' hr' htarget
      have hne : key ≠ ruleField := by
        rintro rfl
        rw [hr] at hr'
        cases hr'
        exact htarget hmember
      rw [RecordChange.data_write]
      exact ((e.data.get?_set ruleField key v).trans (if_neg hne)).trans
        (h.get?_eq key r' hr' htarget)

theorem provisional_mem_firstBatch (hd : d ∈ changes) (hrule : isRule d) :
    provisional d ∈ (Plan.ofChanges changes).firstBatch := by
  rw [firstBatch_eq]
  exact List.mem_map_of_mem ((rules_perm changes).mem_iff.2 (List.mem_filter.2 ⟨hd, hrule⟩))

/-- When the first call names every rule, the identifiers of all rules are known. -/
theorem isSome_lookup_knownIds
    (hreports : ∀ c ∈ (Plan.ofChanges changes).firstBatch, ∃ report,
      a.applied.find? (·.id = c.id) = some report ∧ (Deploy.identifierOf? report).isSome)
    {i : ElementId} (hi : i ∈ (changes.filter isRule).map RecordChange.id) :
    ((knownIds changes a).lookup i).isSome := by
  have hmem : i ∈ (Plan.ofChanges changes).firstBatch.reverse.map RecordChange.id := by
    rw [List.map_reverse, List.mem_reverse, map_id_firstBatch, mem_ruleIds]
    exact hi
  obtain ⟨c, hc⟩ := Option.isSome_iff_exists.1 (RecordChange.isSome_find?_id.2 hmem)
  have hid : c.id = i := by simpa using List.find?_some hc
  obtain ⟨report, hreport, hidentifier⟩ :=
    hreports c (List.mem_reverse.1 (List.mem_of_find?_eq_some hc))
  rw [lookup_knownIds, hc, Option.bind_some, ← hid, hreport, Option.bind_some]
  rw [Option.isSome_or, hidentifier, Bool.true_or]

/-- When the first call names every packed rule, no condition is held back. -/
theorem ruleOf?_eq_none_or_isSome_link? {f : Instance Element → Instance Element}
    (hf : ∀ i : Instance Element, i.PacksInto (f i))
    (hreports : ∀ c ∈ (Plan.ofChanges (changes.map (RecordChange.mapAfter f))).firstBatch,
      ∃ report, a.applied.find? (·.id = c.id) = some report ∧
        (Deploy.identifierOf? report).isSome) :
    ruleOf? changes d = none ∨ (link? changes a d).isSome := by
  rw [link?]
  cases hof : ruleOf? changes d with
  | none => exact Or.inl rfl
  | some i =>
    have hrules := (ruleOf?_eq_some hof).1
    rw [← ids_filter_isRule_mapAfter hf] at hrules
    have hknown := isSome_lookup_knownIds hreports hrules
    rw [lookup_knownIds_mapAfter hf] at hknown
    exact Or.inr hknown

end Approval

namespace Adapter
variable {σ : Type} (a : Adapter) {client : Client σ}

theorem member?_forRecords_of_notMem (groupId : String) {records : List RecordChange}
    {i : ElementId} (hi : i ∉ records.map RecordChange.id) :
    (LookupContext.forRecords groupId records).member? i = none := by
  rw [LookupContext.member?, List.find?_eq_none]
  intro e he hid
  obtain ⟨c, hc, hafter⟩ := List.mem_filterMap.1 (List.mem_reverse.1 he)
  obtain ⟨r, hr, rfl⟩ := List.mem_map.1 hc
  have heid : e.id = r.id := by
    cases r <;> cases hafter <;> rfl
  exact hi (List.mem_map.2 ⟨r, hr, heid.symm.trans (of_decide_eq_true hid)⟩)

/-- A reference to an element of another group becomes the identifier that is known of it. -/
theorem get?_resolveChange {groupId : String} {records : List RecordChange} {e : RecordChange}
    {key : String} {r : Reference Element} (hgroup : groupId ≠ metadataGroup)
    (hkeys : (Assoc.keys e.data.value).Nodup) (hr : e.data.get? key = some (.reference r))
    (htarget : r.target ∉ records.map RecordChange.id) :
    ((a.resolver groupId records).resolveChange e).data.get? key =
      (r.handle.or (a.source r.target)).bind Strategy.default.serialize := by
  have hsends := Resolver.sendsIdentifiers_forRecords groupId records a.source
  rw [Resolver.data_resolveChange]
  exact (hsends.get?_resolveInstance_of_reference hkeys hr).trans
    (LookupContext.value?_resolveWith hgroup
      (member?_forRecords_of_notMem groupId htarget))

/-- Other records are sent in one call, if there are any. -/
theorem send_batch (client : Client σ) {groupId : String} (hgroup : groupId ≠ ChangeGroup.approval)
    (records : List RecordChange) (s : Session σ) :
    ∃ xs, client.Exchanges s xs (a.send client groupId records s).2 ∧
      ((records = [] ∧ xs = [] ∧ (a.send client groupId records s).1 = {}) ∨
        ∃ x, records ≠ [] ∧ xs = [x] ∧
          x.sent = records.map (a.resolver groupId records).resolveChange ∧
          (a.send client groupId records s).1 = Deploy.outcome records x.answer) := by
  cases records with
  | nil => exact ⟨[], .nil s, Or.inl ⟨rfl, rfl, rfl⟩⟩
  | cons c cs =>
    obtain ⟨x, s', hcall, hsent, hrun⟩ :=
      Deploy.batch_run client (a.resolver groupId (c :: cs)) (c :: cs) s
    have hsend : a.send client groupId (c :: cs) s =
        Deploy.batch client (a.resolver groupId (c :: cs)) (c :: cs) s := by
      unfold send
      simp only [List.isEmpty_cons, if_neg hgroup]
      rfl
    rw [hsend, hrun]
    exact ⟨[x], .single hcall, Or.inr ⟨x, List.cons_ne_nil c cs, rfl, hsent, rfl⟩⟩

/-- The first call of an approval deploy names every rule. -/
theorem reports_firstBatch (hclient : client.CreatesEach) {records : List RecordChange}
    (hadditions : ∀ c ∈ records, c.action = .add) {s s' : Session σ} {x : Exchange}
    {xs : List Exchange} (hcalls : client.Exchanges s (x :: xs) s') {groupId : String}
    {members : List RecordChange} (hsent : x.sent =
      (Approval.Plan.ofChanges records).firstBatch.map
        (a.resolver groupId members).resolveChange) :
    ∀ c ∈ (Approval.Plan.ofChanges records).firstBatch, ∃ report,
      x.answer.applied.find? (·.id = c.id) = some report ∧
      (Deploy.identifierOf? report).isSome := by
  have hsends := Resolver.sendsIdentifiers_forRecords groupId members a.source
  have hplain : ∀ c ∈ x.sent, c.action = .add ∧ c.IsPlain := by
    intro c hc
    rw [hsent] at hc
    obtain ⟨p, hp, rfl⟩ := List.mem_map.1 hc
    obtain ⟨d, hd, -, rfl⟩ := Approval.exists_of_mem_firstBatch records hp
    refine ⟨?_, hsends.isPlain_resolveChange _⟩
    rw [Resolver.resolveChange, Change.action_map, Approval.action_provisional]
    exact hadditions d hd
  have hreports := hcalls.forall_answer
    (P := fun sent answer => (∀ c ∈ sent, c.action = .add ∧ c.IsPlain) → ∀ c ∈ sent, ∃ report,
      answer.applied.find? (·.id = c.id) = some report ∧ (Deploy.identifierOf? report).isSome)
    (fun sent state hsent => hclient sent hsent state) x List.mem_cons_self hplain
  intro c hc
  have hmem : (a.resolver groupId members).resolveChange c ∈ x.sent := by
    rw [hsent]
    exact List.mem_map_of_mem hc
  have hreport := hreports _ hmem
  rwa [RecordChange.id_resolveChange] at hreport

section
variable {records : List RecordChange} {f : Instance Element → Instance Element}
  (hf : ∀ i : Instance Element, i.PacksInto (f i))
include hf

/-- A client that creates what it is sent is sent, for every record, one that goes out for it. -/
theorem send_delivers (hclient : client.CreatesEach) (groupId : String)
    (hadditions : ∀ c ∈ records, c.action = .add) (s : Session σ) :
    ∃ xs, client.Exchanges s xs
        (a.send client groupId (records.map (RecordChange.mapAfter f)) s).2 ∧
      ∀ d ∈ records, ∃ x ∈ xs, ∃ e : RecordChange, e.GoesOutFor (records.map RecordChange.id) d ∧
        (a.resolver groupId (records.map (RecordChange.mapAfter f))).resolveChange e ∈ x.sent := by
  by_cases hgroup : groupId = ChangeGroup.approval
  case neg =>
    obtain ⟨xs, hcalls, hsent⟩ :=
      a.send_batch client hgroup (records.map (RecordChange.mapAfter f)) s
    refine ⟨xs, hcalls, ?_⟩
    intro d hd
    rcases hsent with ⟨hnone, -⟩ | ⟨x, -, rfl, hsent, -⟩
    · rw [List.map_eq_nil_iff.1 hnone] at hd
      cases hd
    · refine ⟨x, List.mem_singleton_self x, _, RecordChange.goesOutFor_mapAfter hf _ d, ?_⟩
      rw [hsent]
      exact List.mem_map_of_mem (List.mem_map_of_mem hd)
  case pos =>
    subst hgroup
    obtain ⟨xs, hcalls, hsent⟩ :=
      a.send_approval client (records.map (RecordChange.mapAfter f)) s
    refine ⟨xs, hcalls, ?_⟩
    intro d hd
    rcases hsent with ⟨hnone, -⟩ | ⟨x₁, x₂, x₃, rfl, hsent₁, hsent₂, -, -⟩
    case inl =>
      rw [List.map_eq_nil_iff.1 hnone] at hd
      cases hd
    case inr =>
      by_cases hrule : Approval.isRule d
      case pos =>
        have hrule' : Approval.isRule (RecordChange.mapAfter f d) := by
          rwa [Approval.isRule_mapAfter hf]
        refine ⟨x₁, by simp, _, Approval.goesOutFor_provisional
          (RecordChange.goesOutFor_mapAfter hf _ d), ?_⟩
        rw [hsent₁]
        exact List.mem_map_of_mem
          (Approval.provisional_mem_firstBatch (List.mem_map_of_mem hd) hrule')
      case neg =>
        have hreports := a.reports_firstBatch hclient
          (RecordChange.additions_mapAfter hadditions) hcalls hsent₁
        have hlinked : Approval.ruleOf? records d = none ∨
            (Approval.link? records x₁.answer d).isSome :=
          Approval.ruleOf?_eq_none_or_isSome_link? hf hreports
        refine ⟨x₂, by simp, _, Approval.goesOutFor_link (a := x₁.answer)
          (RecordChange.goesOutFor_mapAfter hf _ d), ?_⟩
        rw [hsent₂]
        exact List.mem_map_of_mem ((Approval.mem_conditionBatch_mapAfter hf).2
          ⟨d, hd, hrule, hlinked, rfl⟩)

end

end Adapter

end ElementSync
