import ElementSync.Proofs.Adapter.Runs
import ElementSync.Proofs.Deploy.ApprovalReports

/-!
# Deploying a group of approval rules and conditions

Such a group is deployed in three calls, about the rules and conditions that validation lets
through. What is reported as applied is what was given, but for the identifiers and for two fields
that are not put back.
-/

namespace ElementSync

theorem exists_map_eq_of_forall {α β : Type} {f : α → β} {p : α → Prop} {l : List β}
    (h : ∀ b ∈ l, ∃ a, p a ∧ b = f a) : ∃ as : List α, (∀ a ∈ as, p a) ∧ l = as.map f := by
  induction l with
  | nil => exact ⟨[], by simp, rfl⟩
  | cons b l ih =>
    obtain ⟨a, ha, rfl⟩ := h b List.mem_cons_self
    obtain ⟨as, has, rfl⟩ := ih fun c hc => h c (List.mem_cons_of_mem _ hc)
    exact ⟨a :: as, List.forall_mem_cons.2 ⟨ha, has⟩, rfl⟩

theorem ConditionLogic.notMem_logicFields_of_identifier (v : Option (Value Element)) :
    ∀ key ∈ Assoc.keys (v.map (idField, ·)).toList, key ∉ logicFields := by
  cases v with
  | none => simp [Assoc.keys]
  | some v => simpa [Assoc.keys] using (by decide : idField ∉ logicFields)

def Change.EqExceptId (c d : Change Element) : Prop :=
  c = d ∨ ∃ v, c = d.write [(idField, v)]

namespace RecordChange

theorem toChange_injective {c d : RecordChange} (h : c.toChange = d.toChange) : c = d := by
  have hrecord := congrArg Change.toRecord h
  rw [toRecord_toChange, toRecord_toChange] at hrecord
  exact Except.ok.inj hrecord

theorem toChange_eqExceptId_iff (c d : RecordChange) :
    c.toChange.EqExceptId d.toChange ↔
      ∃ v : Option (Value Element), c = d.write (v.map (idField, ·)).toList := by
  constructor
  · rintro (heq | ⟨v, heq⟩)
    · exact ⟨none, (toChange_injective heq).trans (write_nil d).symm⟩
    · rw [← toChange_write] at heq
      exact ⟨some v, toChange_injective heq⟩
  · rintro ⟨v, rfl⟩
    cases v with
    | none => exact Or.inl (congrArg toChange (write_nil d))
    | some v => exact Or.inr ⟨v, toChange_write d _⟩

theorem get?_write_ids {d : RecordChange} {key : String} (hkey : key ≠ idField)
    (v : Option (Value Element)) :
    (d.write (v.map (idField, ·)).toList).data.get? key = d.data.get? key := by
  rw [data_write, Instance.get?_write_of_notMem]
  cases v <;> simp [Assoc.keys, hkey]

/-- A change with one field and the identifier written is the same but for the identifier exactly
if the field was there already. -/
theorem write_eqExceptId_iff (d : RecordChange) {e : Option (String × Value Element)}
    (he : ∀ p ∈ e, p.1 ≠ idField) (v : Option (Value Element)) :
    (d.write (e.toList ++ (v.map (idField, ·)).toList)).toChange.EqExceptId d.toChange ↔
      ∀ p ∈ e, d.data.get? p.1 = some p.2 := by
  rw [toChange_eqExceptId_iff, ← write_append]
  cases e with
  | none => simpa using ⟨v, rfl⟩
  | some p =>
    have hkey := he p rfl
    simp only [Option.toList_some, Option.mem_def, Option.some.injEq, forall_eq']
    constructor
    · rintro ⟨u, heq⟩
      have hget := congrArg (fun c : RecordChange => c.data.get? p.1) heq
      rw [get?_write_ids hkey, get?_write_ids hkey, data_write] at hget
      exact hget.symm.trans (d.data.get?_set_self p.1 p.2)
    · intro hget
      have hsame : d.write [p] = d := by
        have hdata := Instance.set_of_get? hget
        cases d <;> exact congrArg _ hdata
      exact ⟨v, by rw [hsame]⟩

end RecordChange

namespace Approval

/-- A change of the list with what it is reported with: at most one field replaced and, unless the
client named none, an identifier. -/
structure IsReport (changes : List RecordChange) (a : BatchAnswer)
    (p : RecordChange × Values Element) : Prop where
  mem : p.1 ∈ changes
  writes : ∃ v : Option (Value Element),
    p.2 = (replaced? changes a p.1).toList ++ (v.map (idField, ·)).toList

theorem IsReport.notMem_logicFields {changes : List RecordChange} {a : BatchAnswer}
    {p : RecordChange × Values Element} (h : IsReport changes a p) :
    ∀ key ∈ Assoc.keys p.2, key ∉ ConditionLogic.logicFields := by
  intro key hkey
  obtain ⟨e, he, rfl⟩ := List.mem_map.1 hkey
  obtain ⟨v, hwrites⟩ := h.writes
  rw [hwrites] at he
  rcases List.mem_append.1 he with he | he
  · rcases key_of_replaced? (Option.mem_toList.1 he) with h | h <;> rw [h] <;> decide
  · exact ConditionLogic.notMem_logicFields_of_identifier v _ (List.mem_map_of_mem he)

end Approval

namespace ChangeGroup

structure IsApproval (g : ChangeGroup) : Prop where
  id_eq : g.id = approval
  additions : ∀ c ∈ g.changes, ∃ i : Instance Element, c = .addition (.inst i) ∧ i.isRecord ∧
    (i.typeName = Approval.ruleType ∨ i.typeName = Approval.conditionType)

namespace IsApproval
variable {g : ChangeGroup} (hgroup : g.IsApproval)
include hgroup

theorem of_subset {g' : ChangeGroup} (hid : g'.id = g.id) (hsub : g'.changes ⊆ g.changes) :
    g'.IsApproval :=
  ⟨hid.trans hgroup.id_eq, fun c hc => hgroup.additions c (hsub hc)⟩

theorem isUniform {c : Change Element} (hc : c ∈ g.changes) : c.IsUniform := by
  obtain ⟨i, rfl, -⟩ := hgroup.additions c hc
  trivial

theorem lacks {typeName : String} (hrule : Approval.ruleType ≠ typeName)
    (hcondition : Approval.conditionType ≠ typeName) : Labels.Lacks typeName g.changes := by
  intro c hc
  obtain ⟨i, rfl, -, htype | htype⟩ := hgroup.additions c hc
  · simpa [Labels.isOf, Change.data, Element.inst?, htype] using hrule
  · simpa [Labels.isOf, Change.data, Element.inst?, htype] using hcondition

theorem action_of_mem_records {r : RecordChange} (hr : r ∈ g.records) : r.action = .add := by
  obtain ⟨i, hi, -⟩ := hgroup.additions _ (mem_records.1 hr).1
  rw [← Change.action_map Element.inst r]
  exact congrArg Change.action hi

theorem mem_records_iff {r : RecordChange} : r ∈ g.records ↔ r.toChange ∈ g.changes := by
  rw [mem_records, and_iff_left_iff_imp]
  intro hr
  obtain ⟨i, hi, hrecord, -⟩ := hgroup.additions _ hr
  have hr : r = .addition i := RecordChange.toChange_injective hi
  rw [hr]
  exact hrecord

theorem nodup_ids_records (hids : (g.changes.map Change.id).Nodup) :
    (g.records.map RecordChange.id).Nodup :=
  ChangeGroup.nodup_ids_records (fun _ => hgroup.isUniform) hids

end IsApproval

end ChangeGroup

namespace Adapter
variable {σ : Type} (a : Adapter) {g : ChangeGroup}

theorem unblocked_subset : (a.unblocked g).changes ⊆ g.changes :=
  List.filter_sublist.subset

theorem nodup_ids_unblocked (hids : (g.changes.map Change.id).Nodup) :
    ((a.unblocked g).changes.map Change.id).Nodup :=
  hids.sublist (List.filter_sublist.map Change.id)

theorem lacks_unblocked {typeName : String} (h : Labels.Lacks typeName g.changes) :
    Labels.Lacks typeName (a.unblocked g).changes :=
  fun c hc => h c (a.unblocked_subset hc)

theorem isApproval_unblocked (hgroup : g.IsApproval) : (a.unblocked g).IsApproval :=
  hgroup.of_subset rfl a.unblocked_subset

def resolver (groupId : String) (records : List RecordChange) : Resolver where
  context := { LookupContext.forRecords groupId records with source := a.source }

/-- Approval records are sent in three calls, if there are any. -/
theorem send_approval (client : Client σ) (records : List RecordChange) (s : Session σ) :
    ∃ xs, client.Exchanges s xs (a.send client ChangeGroup.approval records s).2 ∧
      ((records = [] ∧ xs = [] ∧ (a.send client ChangeGroup.approval records s).1 = {}) ∨
        ∃ x₁ x₂ x₃, xs = [x₁, x₂, x₃] ∧
          x₁.sent = (Approval.Plan.ofChanges records).firstBatch.map
            (a.resolver ChangeGroup.approval records).resolveChange ∧
          x₂.sent = (Approval.conditionBatch records x₁.answer).map
            (a.resolver ChangeGroup.approval records).resolveChange ∧
          x₃.sent = (Approval.restoreBatch records x₁.answer).map
            (a.resolver ChangeGroup.approval records).resolveChange ∧
          (a.send client ChangeGroup.approval records s).1 =
            Approval.result records x₁.answer x₂.answer x₃.answer) := by
  cases records with
  | nil => exact ⟨[], .nil s, Or.inl ⟨rfl, rfl, rfl⟩⟩
  | cons c cs =>
    obtain ⟨x₁, x₂, x₃, s', hcalls, hsent₁, hsent₂, hsent₃, hrun⟩ :=
      Approval.deploy_run (c :: cs) client (a.resolver ChangeGroup.approval (c :: cs)) s
    have hsend : a.send client ChangeGroup.approval (c :: cs) s =
        Approval.deploy client (a.resolver ChangeGroup.approval (c :: cs)) (c :: cs) s := rfl
    rw [hsend, hrun]
    exact ⟨_, hcalls, Or.inr ⟨x₁, x₂, x₃, rfl, hsent₁, hsent₂, hsent₃, rfl⟩⟩

/-- What is reported of packed records: some of them, each with at most one field replaced and an
identifier written. -/
theorem send_approval_reports (client : Client σ) {records : List RecordChange}
    {f : Instance Element → Instance Element} (hf : ∀ i : Instance Element, i.PacksInto (f i))
    (hids : (records.map RecordChange.id).Nodup) (hadditions : ∀ c ∈ records, c.action = .add)
    (s : Session σ) :
    ∃ xs, client.Exchanges s xs
        (a.send client ChangeGroup.approval (records.map (RecordChange.mapAfter f)) s).2 ∧
      ∃ reports : List (RecordChange × Values Element),
        (∀ p ∈ reports, ∃ x ∈ xs.head?, Approval.IsReport records x.answer p) ∧
        (a.send client ChangeGroup.approval
          (records.map (RecordChange.mapAfter f)) s).1.applied =
            reports.map fun p => RecordChange.write (RecordChange.mapAfter f p.1) p.2 := by
  obtain ⟨xs, hcalls, hsent⟩ := a.send_approval client (records.map (RecordChange.mapAfter f)) s
  refine ⟨xs, hcalls, exists_map_eq_of_forall ?_⟩
  intro r hr
  rcases hsent with ⟨-, -, hnone⟩ | ⟨x₁, x₂, x₃, rfl, -, -, -, hresult⟩
  · rw [hnone] at hr
    cases hr
  · have hpackedids : ((records.map (RecordChange.mapAfter f)).map RecordChange.id).Nodup := by
      rwa [RecordChange.map_id_mapAfter hf]
    rw [hresult] at hr
    obtain ⟨c, hc, v, hwrites⟩ :=
      Approval.exists_of_mem_applied hpackedids (RecordChange.additions_mapAfter hadditions) hr
    obtain ⟨d, hd, rfl⟩ := List.mem_map.1 hc
    rw [Approval.replaced?_mapAfter hf] at hwrites
    exact ⟨(d, _), ⟨x₁, rfl, hd, v, rfl⟩, hwrites⟩

/-- A change of an approval group that is applied is reported as it was given, but for its
identifier, exactly if it is no custom rule without a recorded identifier and no condition that was
linked to a rule of the group. -/
theorem deploy_approval_reports (client : Client σ) (g : ChangeGroup) (s : Session σ)
    (hfilters : ∀ f ∈ a.filters, f.isBuiltIn) (hsaved : ∀ f ∈ a.filters, f.SavesNothing)
    (hgroup : g.IsApproval) (hids : (g.changes.map Change.id).Nodup) :
    ∃ (a' : Adapter) (o : Outcome) (xs : List Exchange),
      (a.deploy client g s).1 = (a', .ok o) ∧
      client.Exchanges s xs (a.deploy client g s).2 ∧
      ∀ c ∈ o.applied, ∃ x ∈ xs.head?, ∃ d ∈ (a.unblocked g).records,
        d.toChange ∈ g.changes ∧ c.id = d.toChange.id ∧
        c.EqExceptId (d.write
          (Approval.replaced? (a.unblocked g).records x.answer d).toList).toChange ∧
        (c.EqExceptId d.toChange ↔
          (Approval.isRule d → Approval.hasCustomLogic d.data →
            (Approval.recordedId? x.answer d).isSome) ∧
          (¬ Approval.isRule d → ∀ v,
            Approval.link? (a.unblocked g).records x.answer d = some v →
              d.data.get? Approval.ruleField = some v)) := by
  have happroval := a.isApproval_unblocked hgroup
  have hnodup : ((a.unblocked g).changes.map Change.id).Nodup :=
    hids.sublist (List.filter_sublist.map Change.id)
  obtain ⟨f, fs, o, hdeploys⟩ :=
    a.exists_deploys client g s hfilters (happroval.lacks (by decide) (by decide))
  obtain ⟨xs, hcalls, reports, hreports, hsent⟩ :=
    a.send_approval_reports client hdeploys.packs (happroval.nodup_ids_records hnodup)
      (fun c => happroval.action_of_mem_records) s
  have hdeploy := hdeploys.deploy_eq
  have happlied := hdeploys.applied_eq hsaved hnodup (happroval.lacks (by decide) (by decide))
    reports (by
      intro p hp
      obtain ⟨x, -, hreport⟩ := hreports p hp
      exact ⟨hreport.mem, hreport.notMem_logicFields⟩)
  rw [hgroup.id_eq] at hdeploy happlied
  refine ⟨_, o, xs, by rw [hdeploy], by rw [hdeploy]; exact hcalls, ?_⟩
  intro c hc
  rw [happlied hsent] at hc
  obtain ⟨⟨d, es⟩, hp, rfl⟩ := List.mem_map.1 hc
  obtain ⟨x, hx, hd, v, hwrites⟩ := hreports _ hp
  dsimp only at hd hwrites ⊢
  refine ⟨x, hx, d, hd, a.unblocked_subset (ChangeGroup.mem_records.1 hd).1, ?_, ?_, ?_⟩
  · rw [RecordChange.id_toChange, RecordChange.id_toChange, RecordChange.id_write]
  · rw [RecordChange.toChange_eqExceptId_iff, hwrites, ← RecordChange.write_append]
    exact ⟨v, rfl⟩
  · rw [← Approval.forall_replaced?_iff, hwrites]
    apply RecordChange.write_eqExceptId_iff
    intro e he
    rcases Approval.key_of_replaced? he with h | h <;> rw [h] <;> decide

theorem isApproval_discountGroup : discountGroup.IsApproval where
  id_eq := rfl
  additions := by
    intro c hc
    rcases List.mem_pair.1 hc with rfl | rfl
    · exact ⟨_, rfl, by decide, Or.inl rfl⟩
    · exact ⟨_, rfl, by decide, Or.inr rfl⟩

def namingClient : Client Unit := Client.reporting (·.mapData (·.set idField (.text "a01")))

theorem deploy_approval_reports_discount :
    ∃ (a' : Adapter) (o : Outcome) (xs : List Exchange),
      ((ofProfile {} {}).deploy namingClient discountGroup { state := () }).1 = (a', .ok o) ∧
      namingClient.Exchanges { state := () } xs
        ((ofProfile {} {}).deploy namingClient discountGroup { state := () }).2 ∧
      ∀ c ∈ o.applied, ∃ x ∈ xs.head?, ∃ d ∈ ((ofProfile {} {}).unblocked discountGroup).records,
        d.toChange ∈ discountGroup.changes ∧ c.id = d.toChange.id ∧
        c.EqExceptId (d.write (Approval.replaced?
          ((ofProfile {} {}).unblocked discountGroup).records x.answer d).toList).toChange ∧
        (c.EqExceptId d.toChange ↔
          (Approval.isRule d → Approval.hasCustomLogic d.data →
            (Approval.recordedId? x.answer d).isSome) ∧
          (¬ Approval.isRule d → ∀ v,
            Approval.link? ((ofProfile {} {}).unblocked discountGroup).records x.answer d = some v →
              d.data.get? Approval.ruleField = some v)) := by
  have hfilters : ∀ f ∈ (ofProfile {} {}).filters, f.isBuiltIn :=
    fun f hf => Filter.isBuiltIn_of_mem_builtIn hf
  have hsaved : ∀ f ∈ (ofProfile {} {}).filters, f.SavesNothing :=
    fun f hf => Filter.savesNothing_of_mem_builtIn hf
  exact (ofProfile {} {}).deploy_approval_reports namingClient discountGroup { state := () }
    hfilters hsaved isApproval_discountGroup (by decide)

/-- The condition of the group comes back with the identifier of its rule where it was given a
reference. -/
theorem deploy_reports_linked_discount :
    ∃ o : Outcome,
      ((ofProfile {} {}).deploy namingClient discountGroup { state := () }).1.2.toOption = some o ∧
      ∃ c ∈ o.applied, c.id = Approval.discountCondition.id ∧
        c.data.inst?.bind (·.text? Approval.ruleField) = some "a01" ∧
        ¬ c.EqExceptId Approval.discountCondition.toChange := by
  have hdone : ((ofProfile {} {}).deploy namingClient discountGroup { state := () }).1.2.toOption.map
      (fun o => o.applied.map fun c =>
        (c.id, c.data.inst?.bind (·.text? Approval.ruleField))) =
      some [(Approval.discountRule.id, none), (Approval.discountCondition.id, some "a01")] := by
    decide +kernel
  obtain ⟨o, ho, happlied⟩ := Option.map_eq_some_iff.1 hdone
  have hmem : (Approval.discountCondition.id, some "a01") ∈ o.applied.map fun c =>
      (c.id, c.data.inst?.bind (·.text? Approval.ruleField)) := by
    rw [happlied]
    simp
  obtain ⟨c, hc, heq⟩ := List.mem_map.1 hmem
  obtain ⟨hid, htext⟩ := Prod.mk.inj heq
  refine ⟨o, ho, c, hc, hid, htext, ?_⟩
  rintro (rfl | ⟨v, rfl⟩)
  · cases htext
  · cases htext

end Adapter

end ElementSync
