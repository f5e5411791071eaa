import ElementSync.Proofs.Adapter.Batches
import ElementSync.Proofs.Adapter.LabelAccounts

/-!
# Groups of one kind of changes

The id of a group tells what its changes have in common: that they are of no record, that they add
approval rules and conditions, or that they do the same to records of one type. One type has a name
by which its additions get the id that is meant for approval rules. So the deploy of approval rules
is given approval rules and conditions, and additions of that type if there are any.
-/

namespace ElementSync

/-! ### Kinds of changes -/

namespace ChangeGroup

/-- The type of records whose additions have the id of the group of approval rules. -/
def namesake : String := "approval_rule_and_condition"

def recordsId (a : Action) (typeName : String) : String := a.word ++ "_" ++ typeName ++ "_instances"

end ChangeGroup

namespace Change
variable (c d : Change Element)

def AddsApproval : Prop :=
  c.isOfRecord ∧ c.action = .add ∧
    (c.id.typeName = Approval.ruleType ∨ c.id.typeName = Approval.conditionType)

def AddsNamesake : Prop :=
  c.isOfRecord ∧ c.action = .add ∧ c.id.typeName = ChangeGroup.namesake

instance : Decidable c.AddsApproval := inferInstanceAs (Decidable (_ ∧ _ ∧ _))

instance : Decidable c.AddsNamesake := inferInstanceAs (Decidable (_ ∧ _ ∧ _))

/-- Both changes are of no record, both add an approval rule or condition, or neither does and both
do the same to records of one type. -/
def IsAlike : Prop :=
  (¬ c.isOfRecord ∧ ¬ d.isOfRecord) ∨ (c.AddsApproval ∧ d.AddsApproval) ∨
    ((c.isOfRecord ∧ ¬ c.AddsApproval) ∧ (d.isOfRecord ∧ ¬ d.AddsApproval) ∧
      c.action = d.action ∧ c.id.typeName = d.id.typeName)

end Change

namespace ChangeGroup

theorem head?_recordsId (a : Action) (typeName : String) :
    (recordsId a typeName).toList.head? = a.word.toList.head? := by
  cases a <;> simp [recordsId, Action.word]

theorem recordsId_inj_iff {a b : Action} {t u : String} :
    recordsId a t = recordsId b u ↔ a = b ∧ t = u := by
  constructor
  · intro h
    have haction : a = b := by
      have hhead := congrArg (fun s => s.toList.head?) h
      simp only [head?_recordsId] at hhead
      revert hhead
      cases a <;> cases b <;> decide
    subst haction
    exact ⟨rfl, (String.append_right_inj _).1 ((String.append_left_inj "_instances").1 h)⟩
  · rintro ⟨rfl, rfl⟩
    rfl

theorem recordsId_eq_approval_iff {a : Action} {t : String} :
    recordsId a t = approval ↔ a = .add ∧ t = namesake := by
  -- the id that stands for approval rules has the form of these ids
  have happroval : approval = recordsId .add namesake := by decide
  rw [happroval, recordsId_inj_iff]

theorem recordsId_ne_metadataGroup (a : Action) (t : String) : recordsId a t ≠ metadataGroup := by
  intro h
  have hhead := congrArg (fun s => s.toList.head?) h
  simp only [head?_recordsId] at hhead
  revert hhead
  cases a <;> decide

variable {c d : Change Element}

theorem idOf_of_not_isOfRecord (h : ¬ c.isOfRecord) : idOf c = metadataGroup := by
  cases hdata : c.data with
  | inst i =>
    have hmetadata : i.isRecord = false := by
      simpa [Change.isOfRecord, hdata, Element.inst?] using h
    simp [idOf, hdata, hmetadata]
  | _ => simp [idOf, hdata]

theorem idOf_of_isOfRecord (h : c.isOfRecord) :
    idOf c = if c.AddsApproval then approval else recordsId c.action c.id.typeName := by
  obtain ⟨i, hi, hrecord⟩ := (Option.any_eq_true _ _).1 h
  have hdata : c.data = .inst i := by
    revert hi
    cases c.data <;> simp [Element.inst?]
  have htype : c.id.typeName = i.typeName := congrArg (fun e => e.id.typeName) hdata
  have hadds : c.AddsApproval ↔ c.action = .add ∧
      (i.typeName = Approval.ruleType ∨ i.typeName = Approval.conditionType) := by
    rw [Change.AddsApproval, htype, and_iff_right h]
  simp only [idOf, hdata, hrecord, hadds, htype, recordsId, Bool.not_true, Bool.false_eq_true,
    if_false]
  congr 1
  simp

theorem idOf_eq_metadataGroup_iff : idOf c = metadataGroup ↔ ¬ c.isOfRecord := by
  refine ⟨fun h hrecord => ?_, idOf_of_not_isOfRecord⟩
  rw [idOf_of_isOfRecord hrecord] at h
  split at h
  · exact absurd h (by decide)
  · exact recordsId_ne_metadataGroup _ _ h

/-- Changes have one id if they are alike, or if one adds an approval rule or condition and the
other one a record of the type whose name goes with that id. -/
theorem idOf_eq_iff : idOf c = idOf d ↔
    c.IsAlike d ∨ (c.AddsApproval ∧ d.AddsNamesake) ∨ (c.AddsNamesake ∧ d.AddsApproval) := by
  by_cases hc : c.isOfRecord
  case neg =>
    rw [idOf_of_not_isOfRecord hc, eq_comm, idOf_eq_metadataGroup_iff]
    simp [Change.IsAlike, Change.AddsApproval, Change.AddsNamesake, hc]
  by_cases hd : d.isOfRecord
  case neg =>
    rw [idOf_of_not_isOfRecord hd, idOf_eq_metadataGroup_iff]
    simp [Change.IsAlike, Change.AddsApproval, Change.AddsNamesake, hd]
  rw [idOf_of_isOfRecord hc, idOf_of_isOfRecord hd]
  by_cases hcAdds : c.AddsApproval <;> by_cases hdAdds : d.AddsApproval
  · simp [Change.IsAlike, hcAdds, hdAdds]
  · rw [if_pos hcAdds, if_neg hdAdds, eq_comm, recordsId_eq_approval_iff]
    simp [Change.IsAlike, Change.AddsNamesake, hc, hd, hcAdds, hdAdds]
  · rw [if_neg hcAdds, if_pos hdAdds, recordsId_eq_approval_iff]
    simp [Change.IsAlike, Change.AddsNamesake, hc, hd, hcAdds, hdAdds]
  · rw [if_neg hcAdds, if_neg hdAdds, recordsId_inj_iff]
    simp [Change.IsAlike, hc, hd, hcAdds, hdAdds]

/-- The group of approval rules holds additions of rules, of conditions and of their namesakes. -/
theorem idOf_eq_approval_iff : idOf c = approval ↔ c.AddsApproval ∨ c.AddsNamesake := by
  by_cases hc : c.isOfRecord
  case neg =>
    have hne : metadataGroup ≠ approval := by decide
    simp [idOf_of_not_isOfRecord hc, Change.AddsApproval, Change.AddsNamesake, hc, hne]
  rw [idOf_of_isOfRecord hc]
  split
  case isTrue hadds => simp [hadds]
  case isFalse hadds =>
    rw [recordsId_eq_approval_iff]
    simp [Change.AddsNamesake, hc, hadds]

theorem mem_and_id_of_mem_ofChanges {cs : List (Change Element)} {g : ChangeGroup}
    (hg : g ∈ ofChanges cs) (hc : c ∈ g.changes) : c ∈ cs ∧ idOf c = g.id := by
  rw [ofChanges_eq] at hg
  obtain ⟨i, -, rfl⟩ := List.mem_map.1 hg
  obtain ⟨hmem, hid⟩ := List.mem_filter.1 hc
  exact ⟨hmem, of_decide_eq_true hid⟩

end ChangeGroup

/-! ### What filters leave of additions -/

/-- What is in the group of approval rules is no label. -/
theorem Change.isOf_labelType_of_adds {c : Change Element}
    (h : c.AddsApproval ∨ c.AddsNamesake) : Labels.isOf Labels.labelType c.data = false := by
  refine Bool.eq_false_iff.2 fun hlabel => ?_
  have htype : c.id.typeName = Labels.labelType := Labels.typeName_of_isOf hlabel
  rcases h with ⟨-, -, hrule | hcondition⟩ | ⟨-, -, hnamesake⟩
  · exact absurd (htype.symm.trans hrule) (by decide)
  · exact absurd (htype.symm.trans hcondition) (by decide)
  · exact absurd (htype.symm.trans hnamesake) (by decide)

theorem Change.isOfRecord_outline (c : Change Element) : c.outline.isOfRecord = c.isOfRecord := by
  rw [isOfRecord, isOfRecord, data_outline]
  cases c.data <;> rfl

theorem Change.action_outline (c : Change Element) : c.outline.action = c.action :=
  Change.action_map _ c

/-- Without labels a filter touches nothing but values of instances, whether or not it fails. -/
theorem Filter.outlines_preDeploy {σ : Type} (context : FilterContext) (f : Filter)
    {cs : List (Change Element)} (hcs : Labels.Lacks Labels.labelType cs) (s : Session σ) :
    (f.preDeploy context cs s).1.2.left.map Change.outline = cs.map Change.outline := by
  cases f with
  | conditionLogic saved =>
    exact ConditionLogic.outlines_mapAfter
      (fun i => (ConditionLogic.packsInto_packRule _ i).outline) cs
  | labels saved =>
    have hmerge := Labels.merge_of_lacks context.source hcs
    simp only [Filter.preDeploy, hmerge]
    rfl
  | _ => rfl

theorem Pipeline.outlines_preDeploy {σ : Type} (context : FilterContext) (fs : List Filter)
    {cs : List (Change Element)} (hcs : Labels.Lacks Labels.labelType cs) (s : Session σ) :
    (preDeploy context fs cs s).1.2.left.map Change.outline = cs.map Change.outline := by
  induction fs generalizing cs s with
  | nil => rfl
  | cons f fs ih =>
    have hfirst := f.outlines_preDeploy context hcs s
    rcases hrun : f.preDeploy context cs s with ⟨⟨f', ⟨left, result⟩⟩, s'⟩
    rw [hrun] at hfirst
    rw [preDeploy]
    cases result with
    | error e => rw [run_cons_error hrun]; exact hfirst
    | ok u => rw [run_cons_ok hrun]; exact (ih (hcs.of_outlines hfirst) s').trans hfirst

/-! ### Another way to deploy approval rules -/

namespace Adapter
variable {σ : Type}

def sendBy (approve : Resolver → List RecordChange → Wire σ DeployResult) (client : Client σ)
    (a : Adapter) (groupId : String) (records : List RecordChange) : Wire σ DeployResult :=
  if groupId = ChangeGroup.approval ∧ records ≠ [] then
    approve (a.resolver groupId records) records
  else a.send client groupId records

def deployVia (send : Adapter → String → List RecordChange → Wire σ DeployResult) (a : Adapter)
    (g : ChangeGroup) : Wire σ (Adapter × Except Failure Outcome) := do
  let findings := Validation.run a.validators g.changes
  if (a.unblocked g).changes.isEmpty then return (a, .ok { findings })
  let (filters, prepared) ← Pipeline.preDeploy a.context a.filters (a.unblocked g).changes
  match prepared.result with
  | .error e => return ({ a with filters }, .error e)
  | .ok () =>
    let left : ChangeGroup := { g with changes := prepared.left }
    let sent ← send a g.id left.records
    let (filters, restored) ← Pipeline.onDeploy filters (sent.applied.map RecordChange.toChange)
    return ({ a with filters }, restored.result.map fun () =>
      { applied := restored.left
        findings := findings ++ (left.refused.map unsupported ++ sent.findings) })

def deployGroupsVia (send : Adapter → String → List RecordChange → Wire σ DeployResult)
    (a : Adapter) : List ChangeGroup → Wire σ (Adapter × Except Failure Outcome)
  | [] => return (a, .ok {})
  | g :: gs => do
    match ← deployVia send a g with
    | (a, .error e) => return (a, .error e)
    | (a, .ok first) =>
      let (a, rest) ← deployGroupsVia send a gs
      return (a, rest.map first.append)

variable (a : Adapter) (client : Client σ)

theorem deployVia_send (g : ChangeGroup) :
    deployVia (fun a => a.send client) a g = a.deploy client g := rfl

def filteredRecords (g : ChangeGroup) (s : Session σ) : List RecordChange :=
  ChangeGroup.records { g with
    changes := (Pipeline.preDeploy a.context a.filters (a.unblocked g).changes s).1.2.left }

/-- Two ways to send records make one deploy if they do the same to what the filters leave. -/
theorem deployVia_congr {send send' : Adapter → String → List RecordChange → Wire σ DeployResult}
    {g : ChangeGroup} (h : ∀ s : Session σ,
      send a g.id (a.filteredRecords g s) = send' a g.id (a.filteredRecords g s)) :
    deployVia send a g = deployVia send' a g := by
  funext s
  have hsend := h s
  rw [filteredRecords] at hsend
  simp only [deployVia]
  split
  · rfl
  · rcases hpre : Pipeline.preDeploy a.context a.filters (a.unblocked g).changes s with
      ⟨⟨fs, ⟨left, result⟩⟩, s'⟩
    rw [hpre] at hsend
    simp only [bind, StateT.bind, hpre]
    cases result with
    | error e => rfl
    | ok u => simp only [hsend]

theorem deployGroupsVia_congr
    {send send' : Adapter → String → List RecordChange → Wire σ DeployResult}
    {gs : List ChangeGroup} (h : ∀ g ∈ gs, ∀ (a : Adapter) (s : Session σ),
      send a g.id (a.filteredRecords g s) = send' a g.id (a.filteredRecords g s)) :
    deployGroupsVia send a gs = deployGroupsVia send' a gs := by
  induction gs generalizing a with
  | nil => rfl
  | cons g gs ih =>
    obtain ⟨hg, hgs⟩ := List.forall_mem_cons.1 h
    have hrest : ∀ a', deployGroupsVia send a' gs = deployGroupsVia send' a' gs :=
      fun a' => ih a' hgs
    simp only [deployGroupsVia, deployVia_congr a (hg a), hrest]

theorem deployGroupsVia_send (gs : List ChangeGroup) :
    deployGroupsVia (fun a => a.send client) a gs = a.deployGroups client gs := by
  induction gs generalizing a with
  | nil => rfl
  | cons g gs ih =>
    rw [deployGroupsVia, deployGroups, deployVia_send]
    refine bind_congr fun deployed => ?_
    obtain ⟨a', first⟩ := deployed
    cases first with
    | error e => rfl
    | ok first => simp only [ih]

/-- The filters neither bring a record into a group nor change what is done to which record. -/
theorem exists_of_mem_filteredRecords {g : ChangeGroup} {s : Session σ} {r : RecordChange}
    (hg : Labels.Lacks Labels.labelType g.changes) (hr : r ∈ a.filteredRecords g s) :
    ∃ c ∈ g.changes, c.outline = r.toChange.outline := by
  have hmem := (ChangeGroup.mem_records.1 hr).1
  have houtlines := Pipeline.outlines_preDeploy a.context a.filters (a.lacks_unblocked hg) s
  obtain ⟨c, hc, houtline⟩ := List.mem_map.1 (houtlines ▸ List.mem_map_of_mem hmem)
  exact ⟨c, a.unblocked_subset hc, houtline⟩

theorem sendBy_eq_send {approve : Resolver → List RecordChange → Wire σ DeployResult}
    {groupId : String} {records : List RecordChange}
    (h : groupId = ChangeGroup.approval → ∀ resolver,
      approve resolver records = Approval.deploy client resolver records) :
    sendBy approve client a groupId records = a.send client groupId records := by
  rw [sendBy]
  split
  case isTrue happroval =>
    obtain ⟨hgroup, hsome⟩ := happroval
    have hempty : records.isEmpty = false := by simpa using hsome
    rw [h hgroup, send, hempty, if_neg Bool.false_ne_true, if_pos hgroup]
    rfl
  case isFalse => rfl

end Adapter

/-- What the deploy of approval rules is given when changes are deployed: additions of rules and
conditions, and those additions among the changes that are taken for such. -/
def RecordChange.IsForApproval (r : RecordChange) (cs : List (Change Element)) : Prop :=
  r.toChange.AddsApproval ∨ r.toChange.AddsNamesake ∧ ∃ c ∈ cs, c.id = r.id ∧ c.AddsNamesake

namespace Adapter
variable {σ : Type} (a : Adapter) (client : Client σ) (cs : List (Change Element))

variable {a cs} in
theorem isForApproval_of_mem_filteredRecords {g : ChangeGroup}
    (hg : g ∈ ChangeGroup.ofChanges cs) (hgroup : g.id = ChangeGroup.approval) {s : Session σ}
    {r : RecordChange} (hr : r ∈ a.filteredRecords g s) : r.IsForApproval cs := by
  have hadds : ∀ c ∈ g.changes, c ∈ cs ∧ (c.AddsApproval ∨ c.AddsNamesake) := by
    intro c hc
    obtain ⟨hmem, hid⟩ := ChangeGroup.mem_and_id_of_mem_ofChanges hg hc
    exact ⟨hmem, ChangeGroup.idOf_eq_approval_iff.1 (hid.trans hgroup)⟩
  have hlabels : Labels.Lacks Labels.labelType g.changes := fun c hc =>
    Change.isOf_labelType_of_adds (hadds c hc).2
  -- the change that `r` was before the filters is of the same kind, as they rewrite only values
  obtain ⟨c, hc, houtline⟩ := a.exists_of_mem_filteredRecords hlabels hr
  have hrecord : r.toChange.isOfRecord = c.isOfRecord := by
    rw [← Change.isOfRecord_outline, ← houtline, Change.isOfRecord_outline]
  have haction : r.toChange.action = c.action := by
    rw [← Change.action_outline, ← houtline, Change.action_outline]
  have hid : r.toChange.id = c.id := by
    rw [← Change.id_outline, ← houtline, Change.id_outline]
  obtain ⟨hmem, hc | hc⟩ := hadds c hc
  · exact .inl (by rwa [Change.AddsApproval, hrecord, haction, hid])
  · refine .inr ⟨by rwa [Change.AddsNamesake, hrecord, haction, hid], c, hmem, ?_, hc⟩
    rw [← hid, RecordChange.id_toChange]

/-- Changes are in one group exactly if they are alike, except that additions of records of the
namesake type are in the group of approval rules and conditions. Where these are deployed in their
own way, any other way comes to the same for all changes if it does the same to approval rules and
conditions, and to records of the namesake type that are among the changes. -/
theorem groups_are_of_one_kind :
    (∀ c d : Change Element, ChangeGroup.idOf c = ChangeGroup.idOf d ↔
      c.IsAlike d ∨ (c.AddsApproval ∧ d.AddsNamesake) ∨ (c.AddsNamesake ∧ d.AddsApproval)) ∧
    ∀ approve : Resolver → List RecordChange → Wire σ DeployResult,
      (∀ resolver records, (∀ r ∈ records, r.IsForApproval cs) →
        approve resolver records = Approval.deploy client resolver records) →
      deployGroupsVia (sendBy approve client) a (ChangeGroup.ofChanges cs) =
        a.deployChanges client cs := by
  refine ⟨fun c d => ChangeGroup.idOf_eq_iff, fun approve happrove => ?_⟩
  rw [deployChanges, ← deployGroupsVia_send]
  apply deployGroupsVia_congr
  intro g hg a s
  apply sendBy_eq_send
  intro hgroup resolver
  exact happrove _ _ fun r hr => isForApproval_of_mem_filteredRecords hg hgroup hr

def approveOnly (resolver : Resolver) (records : List RecordChange) : Wire σ DeployResult :=
  if ∀ r ∈ records, r.toChange.AddsApproval then Approval.deploy client resolver records
  else return {}

/-- An account does not get in the way of a rule and its condition. -/
theorem groups_are_of_one_kind_discount :
    let client := InMemory.client {}
    let rule := Approval.discountRule.toChange
    let condition := Approval.discountCondition.toChange
    let changes := [rule, .addition (.inst acme), condition]
    ChangeGroup.idOf rule = ChangeGroup.idOf condition ∧
      deployGroupsVia (sendBy (approveOnly client) client) (ofProfile {} {})
        (ChangeGroup.ofChanges changes) = (ofProfile {} {}).deployChanges client changes := by
  intro client rule condition changes
  obtain ⟨hid, hdeploy⟩ := groups_are_of_one_kind (ofProfile {} {}) client changes
  refine ⟨(hid rule condition).2 (.inl (.inr (.inl ?_))), hdeploy (approveOnly client) ?_⟩
  · decide
  · intro resolver records hrecords
    refine if_pos fun r hr => (hrecords r hr).resolve_right ?_
    rintro ⟨-, c, hc, -, hnamesake⟩
    revert hnamesake
    revert c
    decide

/-- An entry of the namesake type is in the group of a rule, and is deployed like one. -/
theorem namesake_deployed_as_approval :
    let client := InMemory.client {}
    let rule := Approval.discountRule.toChange
    let entry : Change Element :=
      .addition (.inst { name := "Entry", type := Approval.recordType ChangeGroup.namesake })
    ChangeGroup.idOf entry = ChangeGroup.idOf rule ∧ ¬ entry.IsAlike rule ∧
      (∀ resolver records, (∀ r ∈ records, r.toChange.AddsApproval) →
        approveOnly client resolver records = Approval.deploy client resolver records) ∧
      deployGroupsVia (sendBy (approveOnly client) client) (ofProfile {} {})
        (ChangeGroup.ofChanges [entry]) ≠ (ofProfile {} {}).deployChanges client [entry] := by
  intro client rule entry
  refine ⟨by decide, by unfold Change.IsAlike; decide, fun _ _ hrecords => if_pos hrecords, ?_⟩
  intro hsame
  have hcalls := congrArg (fun run => (run { state := 0 }).2.trace.batches.length) hsame
  revert hcalls
  decide +kernel

end Adapter

end ElementSync
