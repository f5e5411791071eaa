import ElementSync.Proofs.Adapter.GroupRuns
import ElementSync.Proofs.Adapter.Prepared

/-!
# What becomes of changes of labels

Changes of labels go out as one change of their container. When the container is applied, they are
reported as applied in its place. When it is refused or fails, the error is about the container,
and no error is about the labels.
-/

namespace ElementSync

open ConditionLogic

/-! ### Filters leave changes of labels alone -/

namespace ConditionLogic

/-- Labels are no rules. -/
theorem RuleKind.of?_of_label {i : Instance Element} (h : i.typeName = Labels.labelType) :
    of? i = none := by
  cases hkind : of? i with
  | none => rfl
  | some k =>
    obtain ⟨hk, -, htype⟩ := of?_eq_some hkind
    have hother : ∀ k ∈ all, k.ruleType ≠ Labels.labelType := by decide
    exact absurd (htype.symm.trans h) (hother k hk)

theorem mapAfter_of_isLabelChange {f : Instance Element → Instance Element}
    (hf : ∀ i, RuleKind.of? i = none → f i = i) {c : Change Element}
    (hc : Labels.isLabelChange c) : mapAfter f c = c := by
  rw [mapAfter_eq_self_iff]
  intro i hi
  have hdata : c.data.inst? = some i := by
    cases c with
    | removal b => cases hi
    | addition a => exact hi
    | modification b a => exact hi
  have htype : i.typeName = Labels.labelType := by
    simpa [Labels.isLabelChange, Labels.isOf, hdata] using hc
  exact hf i (RuleKind.of?_of_label htype)

theorem mapAfter_packRule_of_isLabelChange (context : LookupContext) {c : Change Element}
    (hc : Labels.isLabelChange c) : mapAfter (packRule context) c = c :=
  mapAfter_of_isLabelChange (fun i hi => by simp [packRule, hi]) hc

theorem mem_restoreChanges_of_isLabelChange (kept : SavedByType) {cs : List (Change Element)}
    {c : Change Element} (hc : Labels.isLabelChange c) :
    c ∈ restoreChanges kept cs ↔ c ∈ cs := by
  have hkeeps : ∀ {d}, Labels.isLabelChange d → mapAfter (restoreRule kept) d = d :=
    mapAfter_of_isLabelChange fun i hi => by simp [restoreRule, hi]
  rw [restoreChanges, List.mem_map]
  constructor
  · rintro ⟨d, hd, rfl⟩
    have hlabel : Labels.isLabelChange d :=
      (Labels.isOf_data_mapAfter (outline_restoreRule kept) Labels.labelType d).symm.trans hc
    rwa [hkeeps hlabel]
  · intro hmem
    exact ⟨c, hmem, hkeeps hc⟩

end ConditionLogic

namespace Labels

theorem typeName_of_isOf {typeName : String} {e : Element} (h : isOf typeName e) :
    e.id.typeName = typeName := by
  cases e with
  | inst i => exact of_decide_eq_true h
  | _ => cases h

theorem filter_isLabelChange_packChanges (source : ElementSource) (cs : List (Change Element)) :
    (packChanges source cs).filter isLabelChange = cs.filter isLabelChange := by
  rw [(Pipeline.filter_packChanges source cs).1]
  have hkeeps : ∀ c ∈ cs.filter isLabelChange,
      mapAfter (packRule (contextOf source cs)) c = c := fun c hc =>
    mapAfter_packRule_of_isLabelChange _ (List.mem_filter.1 hc).2
  rw [List.map_congr_left hkeeps, List.map_id']

/-- Labels come back when a container is among the changes. -/
theorem mem_restore {saved cs : List (Change Element)} (hcs : Lacks labelType cs)
    {c : Change Element} (hc : isLabelChange c) :
    c ∈ restore saved cs ↔ c ∈ saved ∧ cs.any isContainerChange := by
  have hnot : c ∉ cs := fun hmem => by
    simp [isLabelChange, hcs c hmem] at hc
  rw [restore]
  split
  case isTrue hany => simp [hnot, hany]
  case isFalse hnone => simp [hnot, hnone]

def mergedRecord (type : ObjectType Element) (cs : List (Change Element)) : RecordChange :=
  .modification (container type (cs.filterMap Change.before?))
    (container type (cs.filterMap Change.after?))

theorem toChange_mergedRecord (type : ObjectType Element) (cs : List (Change Element)) :
    (mergedRecord type cs).toChange = merged type cs := rfl

end Labels

/-! ### What is applied was sent -/

theorem Approval.appliedIds_result_subset (changes : List RecordChange) (a₁ a₂ a₃ : BatchAnswer) :
    (result changes a₁ a₂ a₃).appliedIds ⊆ changes.map RecordChange.id := by
  intro i hi
  rw [DeployResult.appliedIds, result, List.map_append, ids_mergeRules] at hi
  rcases List.mem_append.1 hi with hrule | hcondition
  · have hfirst := (appliedIds_outcome_subset (List.mem_filter.1 hrule).1).1
    exact (ids_perm changes).mem_iff.1 (List.mem_append_left _ hfirst)
  · obtain ⟨e, he, rfl⟩ := List.mem_map.1 (appliedIds_outcome_subset hcondition).1
    obtain ⟨d, hd, -, -, rfl⟩ := mem_conditionBatch.1 he
    rw [RecordChange.id_write]
    exact List.mem_map_of_mem hd

theorem Adapter.appliedIds_send_subset {σ : Type} (a : Adapter) (client : Client σ)
    (groupId : String) (records : List RecordChange) (s : Session σ) :
    (a.send client groupId records s).1.appliedIds ⊆ records.map RecordChange.id := by
  by_cases hgroup : groupId = ChangeGroup.approval
  case pos =>
    subst hgroup
    obtain ⟨-, -, ⟨-, -, hnone⟩ | ⟨x₁, x₂, x₃, -, -, -, -, hresult⟩⟩ :=
      a.send_approval client records s
    · rw [hnone]
      exact List.nil_subset _
    · rw [hresult]
      exact Approval.appliedIds_result_subset _ _ _ _
  case neg =>
    obtain ⟨-, -, ⟨-, -, hnone⟩ | ⟨x, -, -, -, hresult⟩⟩ := a.send_batch client hgroup records s
    · rw [hnone]
      exact List.nil_subset _
    · rw [hresult]
      exact fun i hi => (Approval.appliedIds_outcome_subset hi).1

/-! ### What is refused -/

namespace ChangeGroup
variable {g : ChangeGroup}

variable (g) in
def refused : List (Change Element) :=
  g.otherChanges ++ g.metadata.map RecordChange.toChange

variable (g) in
def Covers (i : ElementId) : Prop :=
  ∃ c ∈ g.changes, i = c.id ∨ c.id.isAbove i

theorem mem_of_mem_refused {c : Change Element} (h : c ∈ g.refused) : c ∈ g.changes := by
  rcases List.mem_append.1 h with hother | hmetadata
  · exact (List.mem_filter.1 hother).1
  · obtain ⟨r, hr, rfl⟩ := List.mem_map.1 hmetadata
    exact (mem_metadata.1 hr).1

theorem toChange_mem_refused {r : RecordChange} :
    r.toChange ∈ g.refused ↔ r.toChange ∈ g.changes ∧ ¬ r.data.isRecord := by
  have hinst : r.toChange.data.isInst := by cases r <;> rfl
  rw [refused, List.mem_append, List.mem_map_of_injective fun _ _ h =>
    RecordChange.toChange_injective h, mem_metadata, otherChanges, List.mem_filter]
  simp [hinst]

end ChangeGroup

namespace Outcome

def AccountsFor (o : Outcome) (c : Change Element) : Prop :=
  c ∈ o.applied ∨ c.id ∈ Finding.errorIds o.findings

end Outcome

namespace Adapter
variable {σ : Type} (a : Adapter)

/-- What is prepared are the packed changes of anything but labels, and the container of these. -/
theorem mem_changes_prepared {g : ChangeGroup} {type : ObjectType Element}
    (htype : Labels.knownType? a.source = some type) {c : Change Element} :
    c ∈ (a.prepared g).changes ↔
      (∃ d ∈ (a.unblocked g).changes, ¬ Labels.isLabelChange d ∧
        mapAfter (packRule (contextOf a.source (a.unblocked g).changes)) d = c) ∨
      ¬ Labels.Lacks Labels.labelType (a.unblocked g).changes ∧
        c = Labels.merged type ((a.unblocked g).changes.filter Labels.isLabelChange) := by
  have hothers : c ∈ (packChanges a.source (a.unblocked g).changes).filter
      (!Labels.isLabelChange ·) ↔ ∃ d ∈ (a.unblocked g).changes, ¬ Labels.isLabelChange d ∧
        mapAfter (packRule (contextOf a.source (a.unblocked g).changes)) d = c := by
    simp [(Pipeline.filter_packChanges a.source _).2, and_assoc]
  rw [prepared, ← hothers]
  rcases Labels.merge_cases a.source (packChanges a.source (a.unblocked g).changes) with
    ⟨hlacks, hmerge⟩ | ⟨hlabels, ⟨type', htype', hmerge⟩ | ⟨hnone, -⟩⟩
  · rw [hmerge, Labels.filter_not_isLabelChange_of_lacks hlacks]
    simp [Pipeline.lacks_packChanges_iff.1 hlacks]
  · cases htype.symm.trans htype'
    have hsome := mt Pipeline.lacks_packChanges_iff.2 hlabels
    rw [hmerge, Labels.filter_isLabelChange_packChanges]
    simp [hsome]
  · cases htype.symm.trans hnone

section
variable {a} {g : ChangeGroup} {type : ObjectType Element}
  (htype : Labels.knownType? a.source = some type)
include htype

theorem toChange_mem_prepared {r : RecordChange} (hr : r.toChange ∈ (a.prepared g).changes) :
    (∃ d ∈ (a.unblocked g).changes, ¬ Labels.isLabelChange d ∧
      ∀ typeName, Labels.isOf typeName d.data = decide (r.id.typeName = typeName)) ∨
    ¬ Labels.Lacks Labels.labelType (a.unblocked g).changes ∧
      r = Labels.mergedRecord type ((a.unblocked g).changes.filter Labels.isLabelChange) := by
  rcases (a.mem_changes_prepared htype).1 hr with ⟨d, hd, hother, hpacked⟩ | ⟨hlabels, hmerged⟩
  · refine .inl ⟨d, hd, hother, fun typeName => ?_⟩
    rw [← Pipeline.isOf_data_mapAfter_packRule, hpacked]
    exact isOf_toChange typeName r
  · exact .inr ⟨hlabels, RecordChange.toChange_injective hmerged⟩

/-- What is applied is of the type of a change that is no label, or is the container of labels. -/
theorem applied_cases (client : Client σ) (s : Session σ) {r : RecordChange}
    (hr : r ∈ (a.send client g.id (a.prepared g).records s).1.applied) :
    (∃ d ∈ (a.unblocked g).changes, ¬ Labels.isLabelChange d ∧
      ∀ typeName, Labels.isOf typeName d.data = decide (r.id.typeName = typeName)) ∨
    (Labels.container type []).isRecord ∧ r.id = (Labels.container type []).id := by
  obtain ⟨r', hr', hid⟩ := List.mem_map.1
    (a.appliedIds_send_subset client g.id (a.prepared g).records s (List.mem_map_of_mem hr))
  obtain ⟨hmem, hrecord⟩ := ChangeGroup.mem_records.1 hr'
  rw [← hid]
  rcases toChange_mem_prepared htype hmem with hother | ⟨-, rfl⟩
  · exact .inl hother
  · exact .inr ⟨hrecord, rfl⟩

/-- No label is among what is applied. -/
theorem lacks_labels_applied (hid : type.id.typeName = Labels.containerType) (client : Client σ)
    (s : Session σ) : Labels.Lacks Labels.labelType
      ((a.send client g.id (a.prepared g).records s).1.applied.map RecordChange.toChange) := by
  intro c hc
  obtain ⟨r, hr, rfl⟩ := List.mem_map.1 hc
  rw [isOf_toChange]
  rcases applied_cases htype client s hr with ⟨d, -, hother, hname⟩ | ⟨-, hcontainer⟩
  · rw [← hname]
    exact Bool.eq_false_iff.2 hother
  · have hname : r.id.typeName = Labels.containerType := by
      rw [hcontainer]
      exact hid
    rw [hname]
    decide

/-- What is refused is about an element of a change that is no label, or it is the container of
labels. -/
theorem refused_cases {c : Change Element} (hc : c ∈ (a.prepared g).refused) :
    (∃ d ∈ (a.unblocked g).changes, ¬ Labels.isLabelChange d ∧ c.id = d.id) ∨
      (¬ Labels.Lacks Labels.labelType (a.unblocked g).changes ∧
        ¬ (Labels.container type []).isRecord) ∧ c.id = (Labels.container type []).id := by
  rcases (a.mem_changes_prepared htype).1 (ChangeGroup.mem_of_mem_refused hc) with
    ⟨d, hd, hother, rfl⟩ | ⟨hlabels, rfl⟩
  · refine .inl ⟨d, hd, hother, ?_⟩
    rw [← Change.id_outline, outline_mapAfter fun i => (packsInto_packRule _ i).outline,
      Change.id_outline]
  · rw [← Labels.toChange_mergedRecord] at hc
    exact .inr ⟨⟨hlabels, (ChangeGroup.toChange_mem_refused.1 hc).2⟩, rfl⟩

theorem id_notMem_refused (hname : type.id.typeName = Labels.containerType)
    (hids : (g.changes.map Change.id).Nodup) {c : Change Element} (hc : c ∈ g.changes)
    (hlabel : Labels.isLabelChange c) : c.id ∉ (a.prepared g).refused.map Change.id := by
  intro hmem
  obtain ⟨d, hd, heq⟩ := List.mem_map.1 hmem
  -- No other change has the id of the label, and the container is of another type.
  rcases refused_cases htype hd with ⟨e, he, hother, hsame⟩ | ⟨-, hcontainer⟩
  · obtain rfl : e = c :=
      List.inj_on_of_nodup_map hids (a.mem_unblocked.1 he).1 hc (hsame.symm.trans heq)
    exact hother hlabel
  · have hlabelName : c.id.typeName = Labels.labelType := Labels.typeName_of_isOf hlabel
    rw [← heq, hcontainer] at hlabelName
    exact absurd (hname.symm.trans hlabelName) (by decide)

theorem exists_container_mem_refused
    (hlabels : ¬ Labels.Lacks Labels.labelType (a.unblocked g).changes)
    (hrecord : ¬ (Labels.container type []).isRecord) :
    ∃ c ∈ (a.prepared g).refused, c.id = (Labels.container type []).id := by
  have hmerged := (a.mem_changes_prepared htype).2 (.inr ⟨hlabels, rfl⟩)
  rw [← Labels.toChange_mergedRecord] at hmerged
  exact ⟨_, ChangeGroup.toChange_mem_refused.2 ⟨hmerged, hrecord⟩, rfl⟩

theorem forall_covers_refused_iff :
    (∀ c ∈ (a.prepared g).refused, g.Covers c.id) ↔
      (¬ Labels.Lacks Labels.labelType (a.unblocked g).changes →
        (Labels.container type []).isRecord ∨ g.Covers (Labels.container type []).id) := by
  constructor
  · intro h hlabels
    by_cases hrecord : (Labels.container type []).isRecord
    · exact .inl hrecord
    · obtain ⟨c, hc, hid⟩ := exists_container_mem_refused htype hlabels hrecord
      exact .inr (hid ▸ h c hc)
  · intro h c hc
    rcases refused_cases htype hc with ⟨d, hd, -, hid⟩ | ⟨⟨hlabels, hrecord⟩, hid⟩
    · exact ⟨d, (a.mem_unblocked.1 hd).1, .inl hid⟩
    · rw [hid]
      exact (h hlabels).resolve_left hrecord

end

section
variable (maxDescribes : Nat) (templates : SavedByType) (client : Client σ) (g : ChangeGroup)
  (s : Session σ)

theorem deployPrepared_eq (g : ChangeGroup) :
    a.deployPrepared client g s =
      let sent := a.send client g.id g.records s
      ({ applied := sent.1.applied.map RecordChange.toChange
         findings := g.refused.map unsupported ++ sent.1.findings }, sent.2) := rfl

/-- With a container for labels a deploy goes through. Behind the findings of the validators come
those about what is refused and those about what was sent. -/
theorem deploy_of_known {type : ObjectType Element}
    (htype : Labels.knownType? a.source = some type) :
    let sent := (a.send client g.id (a.prepared g).records s).1
    ∃ a', ((a.withSaved maxDescribes templates []).deploy client g s).1 = (a', .ok
      { applied := restoreChanges (saveChanges a.source (a.unblocked g).changes templates)
          (Labels.restore ((a.unblocked g).changes.filter Labels.isLabelChange)
            (sent.applied.map RecordChange.toChange))
        findings := Validation.run a.validators g.changes ++
          ((a.prepared g).refused.map unsupported ++ sent.findings) }) := by
  intro sent
  -- With nothing let through the filters do not run at all, but there is nothing to refuse or to
  -- send either, and the equation holds.
  by_cases hempty : (a.unblocked g).changes.isEmpty
  case pos =>
    have hnone : (a.unblocked g).changes = [] := List.isEmpty_iff.1 hempty
    have hprepared : (a.prepared g).changes = [] := by
      rw [prepared, hnone]
      rfl
    have hrecords : (a.prepared g).records = [] := by
      simp [ChangeGroup.records, ChangeGroup.instanceChanges, hprepared]
    have hrefused : (a.prepared g).refused = [] := by
      simp [ChangeGroup.refused, ChangeGroup.metadata, ChangeGroup.otherChanges,
        ChangeGroup.instanceChanges, hprepared]
    have hsent : sent = {} := by
      simp only [sent, hrecords]
      rfl
    refine ⟨a.withSaved maxDescribes templates [], ?_⟩
    rw [(a.withSaved maxDescribes templates []).deploy_of_isEmpty client s hempty, hsent, hnone,
      hrefused]
    simp [Labels.restore, restoreChanges, withSaved]
  case neg =>
    have hpre : Pipeline.preDeploy a.context (Filter.builtInWith maxDescribes templates [])
        (a.unblocked g).changes s =
          ((Filter.builtInWith maxDescribes
            (saveChanges a.source (a.unblocked g).changes templates)
            ((a.unblocked g).changes.filter Labels.isLabelChange),
              ⟨(a.prepared g).changes, .ok ()⟩), s) := by
      have hrun := Pipeline.preDeploy_builtInWith_eq maxDescribes a.context templates []
        (a.unblocked g).changes s
      obtain ⟨left, hmerge⟩ : ∃ left,
          Labels.merge a.source (packChanges a.source (a.unblocked g).changes) = (left, .ok ()) :=
        Labels.merge_of_known _ (by simp [htype])
      dsimp only [context] at hrun
      rw [Labels.saves_of_merge hmerge, Labels.filter_isLabelChange_packChanges] at hrun
      rw [prepared, hmerge]
      rwa [hmerge] at hrun
    exact ⟨_, congrArg Prod.fst ((a.withSaved maxDescribes templates []).deploy_of_hooks client s
      hempty hpre (a.deployPrepared_eq client s (a.prepared g))
      (Pipeline.onDeploy_builtInWith maxDescribes _ _ _ _))⟩

/-- Whatever templates the filters keep and whatever the client answers, a change of a label is
accounted for exactly if validation or sending came to an error about it, or if it was let through
and a container was applied. All findings are about the group unless sending came to others or the
labels go into a container that is no record. Such a container is refused, and the error is about
the container itself. -/
theorem deploy_accounts_for_labels {type : ObjectType Element}
    (htype : a.source (.type salesforce Labels.containerType) = some (.objectType type))
    (hid : type.id = .type salesforce Labels.containerType)
    (hids : (g.changes.map Change.id).Nodup) (hstates : ∀ c ∈ g.changes, c.IsOfOneElement) :
    let found := Validation.run a.validators g.changes
    let sent := (a.send client g.id (a.prepared g).records s).1
    let container := Labels.container type []
    ∃ a' o, ((a.withSaved maxDescribes templates []).deploy client g s).1 = (a', .ok o) ∧
      (∀ c ∈ g.changes, Labels.isLabelChange c →
        (o.AccountsFor c ↔ c.id ∈ Finding.errorIds (found ++ sent.findings) ∨
          ¬ Validation.isBlocked found c ∧
            ∃ r ∈ sent.applied, r.id.typeName = Labels.containerType)) ∧
      ((∀ f ∈ o.findings, g.Covers f.id) ↔
        (∀ f ∈ sent.findings, g.Covers f.id) ∧
          ((∃ c ∈ g.changes, Labels.isLabelChange c ∧ ¬ Validation.isBlocked found c) →
            container.isRecord ∨ g.Covers container.id)) ∧
      (¬ container.isRecord →
        ((∃ c ∈ g.changes, Labels.isLabelChange c ∧ ¬ Validation.isBlocked found c) →
          container.id ∈ Finding.errorIds o.findings) ∧
        ((∀ c ∈ g.changes, ¬ Labels.isContainerChange c) →
          ∀ r ∈ sent.applied, r.id.typeName ≠ Labels.containerType)) := by
  intro found sent container
  have hknown : Labels.knownType? a.source = some type := by
    rw [Labels.knownType?, htype]
    rfl
  have hname : type.id.typeName = Labels.containerType := congrArg ElementId.typeName hid
  obtain ⟨a', hdeploy⟩ := a.deploy_of_known maxDescribes templates client g s hknown
  refine ⟨a', _, hdeploy, ?_, ?_, fun hrecord => ⟨?_, ?_⟩⟩
  · intro c hc hlabel
    have hrefused := id_notMem_refused hknown hname hids hc hlabel
    have hany : ((sent.applied.map RecordChange.toChange).any Labels.isContainerChange) ↔
        ∃ r ∈ sent.applied, r.id.typeName = Labels.containerType := by
      simp [Labels.isContainerChange, isOf_toChange]
    rw [Outcome.AccountsFor, mem_restoreChanges_of_isLabelChange _ hlabel,
      Labels.mem_restore (lacks_labels_applied hknown hname client s) hlabel, List.mem_filter,
      mem_unblocked, hany]
    simp only [Finding.errorIds_append, errorIds_map_unsupported, List.mem_append, hrefused,
      false_or, hc, hlabel, true_and, and_true]
    exact or_comm
  · have hfound : ∀ f ∈ found, g.Covers f.id := by
      intro f hf
      obtain ⟨c, hc, hid⟩ := Validation.exists_id_of_mem_run hstates hf
      exact ⟨c, hc, .inl hid⟩
    have hunsupported : (∀ f ∈ (a.prepared g).refused.map unsupported, g.Covers f.id) ↔
        ∀ c ∈ (a.prepared g).refused, g.Covers c.id := List.forall_mem_map
    rw [List.forall_mem_append, List.forall_mem_append, and_iff_right hfound, hunsupported,
      forall_covers_refused_iff hknown, not_lacks_labels_iff, and_comm]
  · intro hlabels
    obtain ⟨c, hc, hcontainer⟩ :=
      exists_container_mem_refused hknown (not_lacks_labels_iff.2 hlabels) hrecord
    rw [Finding.errorIds_append, Finding.errorIds_append, errorIds_map_unsupported]
    exact List.mem_append_right _ (List.mem_append_left _ (List.mem_map.2 ⟨c, hc, hcontainer⟩))
  · intro hcontainers r hr hcontainer
    rcases applied_cases hknown client s hr with ⟨d, hd, -, hof⟩ | ⟨hrecord', -⟩
    · refine hcontainers d (a.mem_unblocked.1 hd).1 ?_
      rw [Labels.isContainerChange, hof, hcontainer]
      rfl
    · exact hrecord hrecord'

end

/-! ### A label on its own -/

def labelsType (metadataType : String) : ObjectType Element where
  id := .type salesforce Labels.containerType
  annotations := [(AnnotationKey.metadataType, .text metadataType)]

def knowingLabels (metadataType : String) : Adapter :=
  { ofProfile {} {} with
    source := ElementGraph.source { elements := [.objectType (labelsType metadataType)] } }

def greetingGroup : ChangeGroup := ⟨metadataGroup, [.addition (.inst greeting)]⟩

/-- A container that is a record is created, and so is the label. -/
theorem deploy_accounts_for_labels_greeting :
    ∃ a' o, ((knowingLabels customObject).deploy (InMemory.client {}) greetingGroup
      { state := 0 }).1 = (a', .ok o) ∧ o.AccountsFor (.addition (.inst greeting)) := by
  obtain ⟨a', o, hdeploy, hlabels, -⟩ := (knowingLabels customObject).deploy_accounts_for_labels
    10 [] (InMemory.client {}) greetingGroup { state := 0 } rfl rfl (by decide +kernel)
    fun c hc => by
      obtain rfl := List.mem_singleton.1 hc
      trivial
  refine ⟨a', o, hdeploy, (hlabels _ List.mem_cons_self rfl).2 (.inr ⟨?_, ?_⟩)⟩
  · decide +kernel
  · decide +kernel

/-- The label is not applied, and the only error is about a container that nobody has changed. -/
theorem deploy_greeting_unaccounted :
    let a := knowingLabels Labels.containerType
    (∀ f ∈ a.filters, f.isBuiltIn) ∧ a.validators = Validator.builtIn ∧
      a.source (.type salesforce Labels.containerType) =
        some (.objectType (labelsType Labels.containerType)) ∧
      (greetingGroup.changes.map Change.id).Nodup ∧
      Labels.isLabelChange (.addition (.inst greeting)) ∧
      ∃ a' o, (a.deploy (InMemory.client {}) greetingGroup { state := 0 }).1 = (a', .ok o) ∧
        ¬ o.AccountsFor (.addition (.inst greeting)) ∧
        o.findings.map Finding.id =
          [.inst salesforce Labels.containerType Labels.containerType] ∧
        ¬ ∀ f ∈ o.findings, greetingGroup.Covers f.id := by
  intro a
  refine ⟨fun f hf => Filter.isBuiltIn_of_mem_builtIn hf, rfl, rfl, by decide +kernel,
    by decide +kernel, _, _, rfl, ?_, rfl, ?_⟩
  · rintro (happlied | herror)
    · cases happlied
    · revert herror
      decide +kernel
  · intro hcovers
    obtain ⟨c, hc, habout⟩ := hcovers _ List.mem_cons_self
    obtain rfl := List.mem_singleton.1 hc
    revert habout
    decide +kernel

end Adapter

end ElementSync
