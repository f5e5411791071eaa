import ElementSync.Proofs.Adapter.GroupOrder
import ElementSync.Proofs.Adapter.SentLogic

/-!
# Groups that go out in one call

Every group but that of approval rules is one batch. It holds the records that validation lets
through, in the order of the group. What comes back of it is reported as it was given, but for the
identifiers that the client assigned.
-/

namespace ElementSync

def Exchange.actions (x : Exchange) : List (ElementId × Action) :=
  x.sent.map fun r => (r.id, r.action)

def Change.isOfRecord (c : Change Element) : Bool := c.data.inst?.any Instance.isRecord

theorem RecordChange.isOfRecord_toChange (r : RecordChange) :
    r.toChange.isOfRecord = r.data.isRecord := by
  cases r <;> rfl

/-- The records of a group are its changes of records, in their order. -/
theorem ChangeGroup.toChange_records {g : ChangeGroup} (huniform : ∀ c ∈ g.changes, c.IsUniform) :
    g.records.map RecordChange.toChange = g.changes.filter Change.isOfRecord := by
  have hrecord : (fun r : RecordChange => r.data.isRecord) =
      Change.isOfRecord ∘ RecordChange.toChange :=
    funext fun r => r.isOfRecord_toChange.symm
  have hinst : ∀ c : Change Element, (c.isOfRecord && c.data.isInst) = c.isOfRecord :=
    fun _ => Bool.and_eq_left_iff_imp.2 Option.isSome_of_any
  rw [records, hrecord, ← List.filter_map, toChange_instanceChanges huniform, List.filter_filter]
  simp only [hinst]

namespace Adapter
variable {σ : Type} (a : Adapter) {g : ChangeGroup}

variable (g) in
/-- The changes that are due to be sent: those of records, as long as no error is about their
element or about something inside it. -/
def due : List (Change Element) :=
  g.changes.filter fun c => c.isOfRecord ∧
    ∀ f ∈ Validation.run a.validators g.changes, f.isBlocking → f.id ≠ c.id ∧ ¬ c.id.isAbove f.id

theorem due_eq : a.due g = (a.unblocked g).changes.filter Change.isOfRecord := by
  rw [due, unblocked, Validation.deployable, List.filter_filter]
  apply List.filter_congr
  intro c _
  have hfree : ¬ Validation.isBlocked (Validation.run a.validators g.changes) c ↔
      ∀ f ∈ Validation.run a.validators g.changes,
        f.isBlocking → f.id ≠ c.id ∧ ¬ c.id.isAbove f.id := by
    rw [Validation.isBlocked_iff]
    simp only [not_exists, not_and, not_or]
  rw [Bool.eq_iff_iff, decide_eq_true_iff, ← hfree, Bool.and_eq_true, Bool.not_eq_true',
    Bool.not_eq_true]

theorem toChange_unblocked_records (huniform : ∀ c ∈ g.changes, c.IsUniform) :
    (a.unblocked g).records.map RecordChange.toChange = a.due g := by
  rw [due_eq, ChangeGroup.toChange_records fun c hc => huniform c (a.unblocked_subset hc)]

section
variable {f : Instance Element → Instance Element} (hf : ∀ i : Instance Element, i.PacksInto (f i))
include hf

/-- Neither packing nor resolving a record changes what is to be done to which element. -/
theorem actions_packed (huniform : ∀ c ∈ g.changes, c.IsUniform) {resolver : Resolver}
    {x : Exchange} (hx : x.sent = (a.packed g f).map resolver.resolveChange) :
    x.actions = (a.due g).map fun c => (c.id, c.action) := by
  have hkept : ∀ r : RecordChange, (RecordChange.id (resolver.resolveChange
      (RecordChange.mapAfter f r)), Change.action (resolver.resolveChange
        (RecordChange.mapAfter f r))) = (r.toChange.id, r.toChange.action) := by
    intro r
    rw [RecordChange.id_resolveChange, RecordChange.id_mapAfter hf, RecordChange.id_toChange,
      Resolver.resolveChange, Change.action_map, RecordChange.action_mapAfter,
      RecordChange.toChange, Change.action_map]
  rw [Exchange.actions, hx, packed, ← toChange_unblocked_records a huniform]
  simp only [List.map_map, Function.comp_def, hkept]

theorem isRecord_of_mem_packed {r : RecordChange} (hr : r ∈ a.packed g f) : r.data.isRecord := by
  rw [packed, ← ChangeGroup.records_mapAfter _ hf] at hr
  exact (ChangeGroup.mem_records.1 hr).2

/-- No error is about what is packed, since packing keeps the ids. -/
theorem not_isBlocked_of_mem_packed {r : RecordChange} (hr : r ∈ a.packed g f) :
    ¬ Validation.isBlocked (Validation.run a.validators g.changes) r.toChange := by
  obtain ⟨d, hd, rfl⟩ := List.mem_map.1 hr
  have hid : (RecordChange.mapAfter f d).toChange.id = d.toChange.id := by
    rw [RecordChange.id_toChange, RecordChange.id_mapAfter hf, RecordChange.id_toChange]
  rw [Validation.isBlocked_congr hid]
  exact (a.mem_unblocked.1 (ChangeGroup.mem_records.1 hd).1).2

end

/-- One call is made if any change is due, and none otherwise. It asks for what is due, in the order
of the group, and for nothing that is no record or that an error is about. -/
theorem deploy_sends_due (client : Client σ) (g : ChangeGroup) (s : Session σ)
    (hfilters : ∀ f ∈ a.filters, f.isBuiltIn) (hgroup : g.id ≠ ChangeGroup.approval)
    (huniform : ∀ c ∈ g.changes, c.IsUniform)
    (hlabels : ∀ c ∈ g.changes, ¬ Labels.isLabelChange c) :
    ∃ xs, client.Exchanges s xs (a.deploy client g s).2 ∧
      xs.map Exchange.actions =
        (if (a.due g).isEmpty then [] else [(a.due g).map fun c => (c.id, c.action)]) ∧
      ∀ x ∈ xs, ∀ r ∈ x.sent, r.data.isRecord ∧
        ¬ Validation.isBlocked (Validation.run a.validators g.changes) r.toChange := by
  have hlacks : Labels.Lacks Labels.labelType g.changes :=
    fun c hc => Bool.eq_false_iff.2 (hlabels c hc)
  obtain ⟨f, fs, o, hdeploys⟩ :=
    a.exists_deploys client g s hfilters (a.lacks_unblocked hlacks)
  obtain ⟨xs, hcalls, hsent⟩ := a.send_batch client hgroup (a.packed g f) s
  refine ⟨xs, by rw [hdeploys.deploy_eq]; exact hcalls, ?_⟩
  -- Whether a call is made depends on the packed records, and these are as many as are due.
  have hempty : (a.due g).isEmpty = (a.packed g f).isEmpty := by
    rw [← toChange_unblocked_records a huniform, packed, List.isEmpty_map, List.isEmpty_map]
  rcases hsent with ⟨hnone, rfl, -⟩ | ⟨x, hsome, rfl, hsent, -⟩
  case inl => simp [hempty, hnone]
  case inr =>
    have hactions := a.actions_packed hdeploys.packs huniform hsent
    refine ⟨by simp [hempty, hsome, hactions], ?_⟩
    intro y hy r hr
    obtain rfl := List.mem_singleton.1 hy
    obtain ⟨p, hp, rfl⟩ := List.mem_map.1 (hsent ▸ hr)
    constructor
    · rw [Resolver.data_resolveChange]
      exact a.isRecord_of_mem_packed hdeploys.packs hp
    · have hid : ((a.resolver g.id (a.packed g f)).resolveChange p).toChange.id =
          p.toChange.id := by
        rw [RecordChange.id_toChange, RecordChange.id_resolveChange, RecordChange.id_toChange]
      rw [Validation.isBlocked_congr hid]
      exact a.not_isBlocked_of_mem_packed hdeploys.packs hp

def accountsOnly : Adapter := ofProfile { deploy := { types := [("Account", [.add])] } } {}

def mixedGroup : ChangeGroup where
  id := "additions"
  changes := [.addition (.inst ann), .addition (.objectType Validation.invoiceType),
    .addition (.inst acme)]

/-- Only the account is sent. -/
theorem deploy_sends_due_account :
    ∃ xs, (InMemory.client {}).Exchanges { state := 0 } xs
        (accountsOnly.deploy (InMemory.client {}) mixedGroup { state := 0 }).2 ∧
      xs.map Exchange.actions = [[(acme.id, .add)]] ∧
      ∀ x ∈ xs, ∀ r ∈ x.sent, r.data.isRecord ∧
        ¬ Validation.isBlocked (Validation.run accountsOnly.validators mixedGroup.changes)
          r.toChange := by
  have hfilters : ∀ f ∈ accountsOnly.filters, f.isBuiltIn :=
    fun f hf => Filter.isBuiltIn_of_mem_builtIn hf
  have huniform : ∀ c ∈ mixedGroup.changes, c.IsUniform := by
    intro c hc
    simp only [mixedGroup, List.mem_cons, List.not_mem_nil, or_false] at hc
    rcases hc with rfl | rfl | rfl <;> trivial
  have hdue : (if (accountsOnly.due mixedGroup).isEmpty then []
      else [(accountsOnly.due mixedGroup).map fun c => (c.id, c.action)]) =
        [[(acme.id, .add)]] := by
    decide +kernel
  rw [← hdue]
  exact accountsOnly.deploy_sends_due (InMemory.client {}) mixedGroup { state := 0 } hfilters
    (by decide) huniform (by decide)

/-! ### What comes back -/

/-- A record with what is written into it for the first report about it. -/
structure IsReport (records : List RecordChange) (answer : BatchAnswer)
    (p : RecordChange × Values Element) : Prop where
  mem : p.1 ∈ records
  writes : ∃ report, answer.applied.find? (·.id = p.1.id) = some report ∧
    p.2 = ((Deploy.identifierOf? report).map (idField, ·)).toList

theorem IsReport.notMem_logicFields {records : List RecordChange} {answer : BatchAnswer}
    {p : RecordChange × Values Element} (h : IsReport records answer p) :
    ∀ key ∈ Assoc.keys p.2, key ∉ ConditionLogic.logicFields := by
  obtain ⟨report, -, hwrites⟩ := h.writes
  rw [hwrites]
  exact ConditionLogic.notMem_logicFields_of_identifier (Deploy.identifierOf? report)

/-- What is reported of packed records: some of them, each with the identifier of its report. -/
theorem send_batch_reports (client : Client σ) {groupId : String}
    (hgroup : groupId ≠ ChangeGroup.approval) (records : List RecordChange)
    {f : Instance Element → Instance Element} (hf : ∀ i : Instance Element, i.PacksInto (f i))
    (s : Session σ) :
    ∃ xs, client.Exchanges s xs
        (a.send client groupId (records.map (RecordChange.mapAfter f)) s).2 ∧
      ∃ reports : List (RecordChange × Values Element),
        (∀ p ∈ reports, ∃ x ∈ xs, IsReport records x.answer p) ∧
        (a.send client groupId (records.map (RecordChange.mapAfter f)) s).1.applied =
          reports.map fun p => RecordChange.write (RecordChange.mapAfter f p.1) p.2 := by
  obtain ⟨xs, hcalls, hsent⟩ :=
    a.send_batch client hgroup (records.map (RecordChange.mapAfter f)) s
  refine ⟨xs, hcalls, exists_map_eq_of_forall ?_⟩
  intro r hr
  rcases hsent with ⟨-, -, hnone⟩ | ⟨x, -, rfl, -, hresult⟩
  case inl =>
    rw [hnone] at hr
    cases hr
  case inr =>
    rw [hresult, Deploy.applied_outcome] at hr
    obtain ⟨c, report, hc, hreport, rfl⟩ := Deploy.exists_of_mem_matchReports hr
    obtain ⟨d, hd, rfl⟩ := List.mem_map.1 (List.mem_reverse.1 (List.mem_of_find?_eq_some hc))
    rw [Deploy.id_withAssignedId, RecordChange.id_mapAfter hf] at hreport
    exact ⟨(d, _), ⟨x, List.mem_singleton_self x, hd, report, hreport, rfl⟩,
      Deploy.withAssignedId_eq_write _ report⟩

/-- Whatever the client answers, a change that is applied is reported as it was given, but for the
identifier that the first report about it holds. -/
theorem deploy_reports_given (client : Client σ) (g : ChangeGroup) (s : Session σ)
    (hfilters : ∀ f ∈ a.filters, f.isBuiltIn) (hsaved : ∀ f ∈ a.filters, f.SavesNothing)
    (hgroup : g.id ≠ ChangeGroup.approval) (hids : (g.changes.map Change.id).Nodup)
    (hlabels : ∀ c ∈ g.changes, ¬ Labels.isLabelChange c ∧ ¬ Labels.isContainerChange c) :
    ∃ (a' : Adapter) (o : Outcome) (xs : List Exchange),
      (a.deploy client g s).1 = (a', .ok o) ∧
      client.Exchanges s xs (a.deploy client g s).2 ∧
      ∀ c ∈ o.applied, ∃ d ∈ g.changes, d.id = c.id ∧ c.EqExceptId d ∧
        ∃ x ∈ xs, ∃ report, x.answer.applied.find? (·.id = c.id) = some report ∧
          c = d.write ((Deploy.identifierOf? report).map (idField, ·)).toList := by
  have hlacks : Labels.Lacks Labels.labelType g.changes :=
    fun c hc => Bool.eq_false_iff.2 (hlabels c hc).1
  have hcontainers : Labels.Lacks Labels.containerType g.changes :=
    fun c hc => Bool.eq_false_iff.2 (hlabels c hc).2
  obtain ⟨f, fs, o, hdeploys⟩ :=
    a.exists_deploys client g s hfilters (a.lacks_unblocked hlacks)
  obtain ⟨xs, hcalls, reports, hreports, hsent⟩ :=
    a.send_batch_reports client hgroup (a.unblocked g).records hdeploys.packs s
  -- Nothing is written into the fields that hold logic, so the filters put the templates back.
  have happlied : o.applied = reports.map fun r => RecordChange.toChange (r.1.write r.2) := by
    refine hdeploys.applied_eq hsaved (a.nodup_ids_unblocked hids) (a.lacks_unblocked hcontainers)
      reports ?_ hsent
    intro p hp
    obtain ⟨x, -, hreport⟩ := hreports p hp
    exact ⟨hreport.mem, hreport.notMem_logicFields⟩
  have hdeploy := hdeploys.deploy_eq
  refine ⟨_, o, xs, by rw [hdeploy], by rw [hdeploy]; exact hcalls, ?_⟩
  intro c hc
  rw [happlied] at hc
  obtain ⟨⟨d, es⟩, hp, rfl⟩ := List.mem_map.1 hc
  obtain ⟨x, hx, hd, report, hreport, rfl⟩ := hreports _ hp
  have hid : (d.write ((Deploy.identifierOf? report).map (idField, ·)).toList).toChange.id =
      RecordChange.id d := by
    rw [RecordChange.id_toChange, RecordChange.id_write]
  refine ⟨d.toChange, a.unblocked_subset (ChangeGroup.mem_records.1 hd).1, ?_, ?_, x, hx, report,
    ?_, RecordChange.toChange_write d _⟩
  · rw [RecordChange.id_toChange, hid]
  · exact (RecordChange.toChange_eqExceptId_iff _ d).2 ⟨_, rfl⟩
  · rw [hid]
    exact hreport

/-- The rule is sent with an index for its logic and comes back with the template. -/
theorem deploy_reports_given_tier :
    ∃ (a' : Adapter) (o : Outcome) (xs : List Exchange),
      ((ofProfile {} {}).deploy namingClient tierRenamed { state := () }).1 = (a', .ok o) ∧
      namingClient.Exchanges { state := () } xs
        ((ofProfile {} {}).deploy namingClient tierRenamed { state := () }).2 ∧
      o.applied.length = 1 ∧
      ∀ c ∈ o.applied, ∃ d ∈ tierRenamed.changes, d.id = c.id ∧ c.EqExceptId d ∧
        ∃ x ∈ xs, ∃ report, x.answer.applied.find? (·.id = c.id) = some report ∧
          c = d.write ((Deploy.identifierOf? report).map (idField, ·)).toList := by
  have hfilters : ∀ f ∈ (ofProfile {} {}).filters, f.isBuiltIn :=
    fun f hf => Filter.isBuiltIn_of_mem_builtIn hf
  have hsaved : ∀ f ∈ (ofProfile {} {}).filters, f.SavesNothing :=
    fun f hf => Filter.savesNothing_of_mem_builtIn hf
  obtain ⟨a', o, xs, hdeploy, hcalls, happlied⟩ := (ofProfile {} {}).deploy_reports_given
    namingClient tierRenamed { state := () } hfilters hsaved (by decide) (by decide) (by decide)
  have hlength : ((ofProfile {} {}).deploy namingClient tierRenamed
      { state := () }).1.2.toOption.map (·.applied.length) = some 1 := by
    decide +kernel
  rw [hdeploy] at hlength
  exact ⟨a', o, xs, hdeploy, hcalls, Option.some.inj hlength, happlied⟩

end Adapter

end ElementSync
