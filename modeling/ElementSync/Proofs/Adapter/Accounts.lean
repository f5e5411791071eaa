import ElementSync.Adapter
import ElementSync.Proofs.Deploy.Accounts
import ElementSync.Proofs.Filter.Deploy
import ElementSync.Proofs.Validation.Blocking
import Mathlib.Data.List.Nodup

/-!
# An adapter accounts for every change

A change of a group is held back for an error of a validator, refused because it is of no record,
or sent to the client. In the end it is either applied once and without an error about it, or not
applied and there is an error to tell why.
-/

namespace ElementSync

theorem RecordChange.ids_toChange (cs : List RecordChange) :
    (cs.map RecordChange.toChange).map Change.id = cs.map RecordChange.id := by
  rw [List.map_map]
  apply List.map_congr_left
  intro c _
  exact RecordChange.id_toChange c

/-- No change is lost when all of them are taken for changes of records. -/
theorem RecordChange.toChange_filterMap_toRecord {cs : List (Change Element)}
    (h : ∀ c ∈ cs, c.IsUniform ∧ c.data.isInst) :
    (cs.filterMap fun c => c.toRecord.toOption).map RecordChange.toChange = cs := by
  induction cs with
  | nil => rfl
  | cons c cs ih =>
    obtain ⟨huniform, hinst⟩ := h c List.mem_cons_self
    obtain ⟨r, hr, hchange⟩ := Change.exists_toRecord huniform hinst
    rw [List.filterMap_cons_some (by rw [hr]; rfl), List.map_cons, hchange,
      ih fun d hd => h d (List.mem_cons_of_mem c hd)]

namespace ChangeGroup
variable {g : ChangeGroup}

theorem toChange_instanceChanges (h : ∀ c ∈ g.changes, c.IsUniform) :
    g.instanceChanges.map RecordChange.toChange = g.changes.filter (·.data.isInst) := by
  apply RecordChange.toChange_filterMap_toRecord
  intro c hc
  obtain ⟨hmem, hinst⟩ := List.mem_filter.1 hc
  exact ⟨h c hmem, hinst⟩

theorem ids_perm (h : ∀ c ∈ g.changes, c.IsUniform) :
    (g.instanceChanges.map RecordChange.id ++ g.otherChanges.map Change.id).Perm
      (g.changes.map Change.id) := by
  rw [← RecordChange.ids_toChange, toChange_instanceChanges h, ← List.map_append]
  exact (List.filter_append_perm (fun c : Change Element => c.data.isInst) g.changes).map Change.id

variable (g) in
def records : List RecordChange := g.instanceChanges.filter (·.data.isRecord)

variable (g) in
def metadata : List RecordChange := g.instanceChanges.filter (!·.data.isRecord)

theorem ids_records_perm (g : ChangeGroup) :
    (g.records.map RecordChange.id ++ g.metadata.map RecordChange.id).Perm
      (g.instanceChanges.map RecordChange.id) := by
  rw [← List.map_append]
  exact (List.filter_append_perm (fun c : RecordChange => c.data.isRecord)
    g.instanceChanges).map RecordChange.id

theorem nodup_ids_records (huniform : ∀ c ∈ g.changes, c.IsUniform)
    (hids : (g.changes.map Change.id).Nodup) : (g.records.map RecordChange.id).Nodup := by
  have hinstances := (List.nodup_append.1 ((ids_perm huniform).nodup_iff.2 hids)).1
  exact (List.nodup_append.1 ((ids_records_perm g).nodup_iff.2 hinstances)).1

end ChangeGroup

namespace Outcome

def appliedIds (o : Outcome) : List ElementId := o.applied.map Change.id

def Applies (o : Outcome) (i : ElementId) : Prop :=
  o.appliedIds.count i = 1 ∧ ∀ f ∈ o.findings, f.isBlocking → f.id ≠ i

/-- The element is not applied, and some error is about it or about something inside it. -/
def Refuses (o : Outcome) (i : ElementId) : Prop :=
  i ∉ o.appliedIds ∧ ∃ f ∈ o.findings, f.isBlocking ∧ (f.id = i ∨ i.isAbove f.id)

theorem not_refuses_of_applies {o : Outcome} {i : ElementId} (h : o.Applies i) :
    ¬ o.Refuses i := by
  intro hrefused
  have hcount := List.count_eq_zero.2 hrefused.1
  have happlied := h.1
  omega

/-- What is held back has its error among the findings before, and what is not held back is
accounted for behind them. -/
theorem applies_or_refuses {o : Outcome} {findings sent : List Finding}
    {cs : List (Change Element)} (hids : (cs.map Change.id).Nodup)
    (hfindings : o.findings = findings ++ sent)
    (haccounts : Accounts o.appliedIds sent ((Validation.deployable findings cs).map Change.id))
    {c : Change Element} (hc : c ∈ cs) : o.Applies c.id ∨ o.Refuses c.id := by
  by_cases hblocked : Validation.isBlocked findings c
  case pos =>
    obtain ⟨f, hf, hcause⟩ := Validation.isBlocked_iff.1 hblocked
    refine Or.inr ⟨?_, f, by rw [hfindings]; exact List.mem_append_left sent hf, hcause⟩
    intro happlied
    have hmem := haccounts.mem_iff.1 (List.mem_append_left _ happlied)
    obtain ⟨d, hd, hid⟩ := List.mem_map.1 hmem
    obtain ⟨hdmem, hfree⟩ := List.mem_filter.1 hd
    have hsame : d = c := List.inj_on_of_nodup_map hids hdmem hc hid
    simp [hsame, hblocked] at hfree
  case neg =>
    have hdeployable : c ∈ Validation.deployable findings cs :=
      List.mem_filter.2 ⟨hc, by simpa using hblocked⟩
    have hnodup : ((Validation.deployable findings cs).map Change.id).Nodup :=
      hids.sublist (List.filter_sublist.map Change.id)
    have hcount := accounts_iff.1 haccounts c.id
    rw [hnodup.count, if_pos (List.mem_map_of_mem hdeployable)] at hcount
    by_cases happlied : c.id ∈ o.appliedIds
    · have hpos := List.count_pos_iff.2 happlied
      refine Or.inl ⟨by omega, ?_⟩
      intro f hf hblocking hid
      rw [hfindings] at hf
      rcases List.mem_append.1 hf with hbefore | hsent
      · exact hblocked (Validation.isBlocked_of_mem hbefore hblocking hid)
      · have herror := List.count_pos_iff.2 (Finding.mem_errorIds.2 ⟨f, hsent, hblocking, hid⟩)
        omega
    · have hzero := List.count_eq_zero.2 happlied
      have herror : c.id ∈ Finding.errorIds sent := List.count_pos_iff.1 (by omega)
      obtain ⟨f, hf, hblocking, hid⟩ := Finding.mem_errorIds.1 herror
      refine Or.inr ⟨happlied, f, ?_, hblocking, Or.inl hid⟩
      rw [hfindings]
      exact List.mem_append_right findings hf

end Outcome

namespace Adapter
variable {σ : Type} {client : Client σ} (a : Adapter)

theorem send_accounts (hclient : client.AnswersEach) (groupId : String)
    {records : List RecordChange} (hids : (records.map RecordChange.id).Nodup) (s : Session σ) :
    (a.send client groupId records s).1.Accounts (records.map RecordChange.id) := by
  unfold send
  split
  case isTrue hempty =>
    rw [List.isEmpty_iff.1 hempty]
    exact DeployResult.accounts_empty
  case isFalse =>
    split
    · exact Approval.deploy_accounts hclient _ hids s
    · exact Deploy.batch_accounts hclient _ hids s

theorem errorIds_map_unsupported (cs : List (Change Element)) :
    Finding.errorIds (cs.map unsupported) = cs.map Change.id :=
  Finding.errorIds_map_error cs _ _ _

theorem deployPrepared_accounts (hclient : client.AnswersEach) {g : ChangeGroup}
    (huniform : ∀ c ∈ g.changes, c.IsUniform) (hids : (g.changes.map Change.id).Nodup)
    (s : Session σ) :
    Accounts (a.deployPrepared client g s).1.appliedIds (a.deployPrepared client g s).1.findings
      (g.changes.map Change.id) := by
  have hinstances := ChangeGroup.ids_perm huniform
  have hrecords := g.ids_records_perm
  have hsent := a.send_accounts hclient g.id (ChangeGroup.nodup_ids_records huniform hids) s
  have happlied : (a.deployPrepared client g s).1.appliedIds =
      (a.send client g.id g.records s).1.appliedIds :=
    RecordChange.ids_toChange _
  have herrors : Finding.errorIds (a.deployPrepared client g s).1.findings =
      g.otherChanges.map Change.id ++ g.metadata.map RecordChange.id ++
        Finding.errorIds (a.send client g.id g.records s).1.findings := by
    rw [← RecordChange.ids_toChange g.metadata, ← List.map_append, ← errorIds_map_unsupported,
      ← Finding.errorIds_append]
    rfl
  rw [accounts_iff, happlied, herrors]
  intro i
  have hi₁ := accounts_iff.1 hsent i
  have hi₂ := List.perm_iff_count.1 hrecords i
  have hi₃ := List.perm_iff_count.1 hinstances i
  simp only [List.count_append] at hi₂ hi₃ ⊢
  omega

theorem isOf_toChange (typeName : String) (r : RecordChange) :
    Labels.isOf typeName r.toChange.data = decide (r.id.typeName = typeName) := by
  cases r <;> rfl

/-- What was applied is of the same types as what was sent. -/
theorem deployPrepared_lacks (hclient : client.AnswersEach) {g : ChangeGroup}
    (huniform : ∀ c ∈ g.changes, c.IsUniform) (hids : (g.changes.map Change.id).Nodup)
    (s : Session σ) {typeName : String} (hlacks : Labels.Lacks typeName g.changes) :
    Labels.Lacks typeName (a.deployPrepared client g s).1.applied := by
  intro c hc
  obtain ⟨r, hr, rfl⟩ := List.mem_map.1 hc
  have hsent := a.send_accounts hclient g.id (ChangeGroup.nodup_ids_records huniform hids) s
  have hid : r.id ∈ g.records.map RecordChange.id :=
    hsent.mem_iff.1 (List.mem_append_left _ (List.mem_map_of_mem hr))
  obtain ⟨r', hr', heq⟩ := List.mem_map.1 hid
  have hmem : r'.toChange ∈ g.changes.filter (·.data.isInst) := by
    rw [← ChangeGroup.toChange_instanceChanges huniform]
    exact List.mem_map_of_mem (List.mem_filter.1 hr').1
  have hlack := hlacks r'.toChange (List.mem_filter.1 hmem).1
  rw [isOf_toChange] at hlack ⊢
  rw [← heq]
  exact hlack

/-- The changes that validation lets through are accounted for behind its findings. -/
theorem deploy_run (hclient : client.AnswersEach) (hfilters : ∀ f ∈ a.filters, f.isBuiltIn)
    {g : ChangeGroup} (huniform : ∀ c ∈ g.changes, c.IsUniform)
    (hids : (g.changes.map Change.id).Nodup) (hlabels : Labels.Lacks Labels.labelType g.changes)
    (hcontainers : Labels.Lacks Labels.containerType g.changes) (s : Session σ) :
    ∃ (fs : List Filter) (o : Outcome) (sent : List Finding),
      (a.deploy client g s).1 = ({ a with filters := fs }, .ok o) ∧
      (∀ f ∈ fs, f.isBuiltIn) ∧
      o.findings = Validation.run a.validators g.changes ++ sent ∧
      Accounts o.appliedIds sent ((Validation.deployable (Validation.run a.validators g.changes)
        g.changes).map Change.id) := by
  set findings := Validation.run a.validators g.changes with hfindings
  set cs := Validation.deployable findings g.changes with hcs
  have hsub : cs.Sublist g.changes := List.filter_sublist
  by_cases hempty : cs.isEmpty
  case pos =>
    refine ⟨a.filters, { findings }, [], ?_, hfilters, (List.append_nil findings).symm, ?_⟩
    · unfold deploy
      simp only [← hfindings, ← hcs, hempty, if_true]
      rfl
    · rw [List.isEmpty_iff.1 hempty]
      exact List.Perm.refl []
  case neg =>
    obtain ⟨fs₁, ps, hpre, hfs₁, hkept₁⟩ :=
      Pipeline.preDeploy_run a.context s hfilters fun c hc => hlabels c (hsub.subset hc)
    have hpsids : ps.map Change.id = cs.map Change.id :=
      Change.map_eq_of_outlines Change.id_outline hkept₁
    have hpsuniform : ∀ c ∈ ps, c.IsUniform :=
      Change.forall_of_outlines Change.isUniform_outline hkept₁ fun c hc =>
        huniform c (hsub.subset hc)
    have hpsnodup : (ps.map Change.id).Nodup := hpsids ▸ hids.sublist (hsub.map Change.id)
    have hpslacks : Labels.Lacks Labels.containerType ps :=
      Labels.Lacks.of_outlines hkept₁ fun c hc => hcontainers c (hsub.subset hc)
    obtain ⟨sent, s', hsent⟩ : ∃ sent s', a.deployPrepared client { g with changes := ps } s =
      (sent, s') := ⟨_, _, rfl⟩
    have haccounts := a.deployPrepared_accounts hclient (g := { g with changes := ps })
      hpsuniform hpsnodup s
    have hlacks := a.deployPrepared_lacks hclient (g := { g with changes := ps })
      hpsuniform hpsnodup s hpslacks
    rw [hsent] at haccounts hlacks
    obtain ⟨fs₂, restored, hpost, hfs₂, hkept₂⟩ := Pipeline.onDeploy_run s' hfs₁ hlacks
    refine ⟨fs₂, { applied := restored, findings := findings ++ sent.findings }, sent.findings,
      ?_, hfs₂, rfl, ?_⟩
    · unfold deploy
      simp only [← hfindings, ← hcs, if_neg hempty, bind, StateT.bind, hpre, hsent, hpost]
      rfl
    · have happlied : restored.map Change.id = sent.applied.map Change.id :=
        Change.map_eq_of_outlines Change.id_outline hkept₂
      rw [Outcome.appliedIds, happlied, ← hpsids]
      exact haccounts

/-- Every change of a group is accounted for exactly once, whatever the validators find and
whatever the client fails; a system in memory is such a client. -/
theorem deploy_accounts_once (client : Client σ) (g : ChangeGroup) (s : Session σ)
    (hfilters : ∀ f ∈ a.filters, f.isBuiltIn) (hclient : client.AnswersEach)
    (hids : (g.changes.map Change.id).Nodup) (huniform : ∀ c ∈ g.changes, c.IsUniform)
    (hlabels : ∀ c ∈ g.changes, ¬ Labels.isLabelChange c ∧ ¬ Labels.isContainerChange c) :
    (∀ m : InMemory, m.client.AnswersEach) ∧
      ∃ (a' : Adapter) (o : Outcome), (a.deploy client g s).1 = (a', .ok o) ∧
        ∀ c ∈ g.changes,
          (o.Applies c.id ∧ ¬ o.Refuses c.id) ∨ (o.Refuses c.id ∧ ¬ o.Applies c.id) := by
  refine ⟨InMemory.client_answersEach, ?_⟩
  obtain ⟨fs, o, sent, hrun, -, hfindings, haccounts⟩ :=
    a.deploy_run hclient hfilters huniform hids
      (fun c hc => Bool.eq_false_iff.2 (hlabels c hc).1)
      (fun c hc => Bool.eq_false_iff.2 (hlabels c hc).2) s
  refine ⟨_, o, hrun, ?_⟩
  intro c hc
  rcases Outcome.applies_or_refuses hids hfindings haccounts hc with happlies | hrefuses
  · exact Or.inl ⟨happlies, Outcome.not_refuses_of_applies happlies⟩
  · exact Or.inr ⟨hrefuses, fun happlies => Outcome.not_refuses_of_applies happlies hrefuses⟩

def discountGroup : ChangeGroup :=
  ⟨ChangeGroup.approval, [Approval.discountRule.toChange, Approval.discountCondition.toChange]⟩

/-- A system that creates the rule but cannot put its logic back. -/
def lockingSystem : InMemory where
  failures := [{ id := Approval.discountRule.id, action := some .modify, message := "locked" }]

theorem deploy_accounts_once_discount :
    ∃ (a' : Adapter) (o : Outcome),
      ((ofProfile {} {}).deploy lockingSystem.client discountGroup { state := 0 }).1 =
        (a', .ok o) ∧
      ∀ c ∈ discountGroup.changes,
        (o.Applies c.id ∧ ¬ o.Refuses c.id) ∨ (o.Refuses c.id ∧ ¬ o.Applies c.id) := by
  have hfilters : ∀ f ∈ (ofProfile {} {}).filters, f.isBuiltIn :=
    fun f hf => Filter.isBuiltIn_of_mem_builtIn hf
  have hids : (discountGroup.changes.map Change.id).Nodup := by decide
  have huniform : ∀ c ∈ discountGroup.changes, c.IsUniform := by
    intro c hc
    rcases List.mem_pair.1 hc with rfl | rfl <;> trivial
  have hlabels : ∀ c ∈ discountGroup.changes,
      ¬ Labels.isLabelChange c ∧ ¬ Labels.isContainerChange c := by
    intro c hc
    rcases List.mem_pair.1 hc with rfl | rfl <;> decide
  exact ((ofProfile {} {}).deploy_accounts_once lockingSystem.client discountGroup { state := 0 }
    hfilters lockingSystem.client_answersEach hids huniform hlabels).2

example :
    ((ofProfile {} {}).deploy lockingSystem.client discountGroup
      { state := 0 }).1.2.toOption.map Outcome.appliedIds =
        some [Approval.discountCondition.id] := by
  decide +kernel

end Adapter

end ElementSync
