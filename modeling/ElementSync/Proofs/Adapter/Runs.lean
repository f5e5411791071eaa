import ElementSync.Proofs.Adapter.Accounts
import ElementSync.Proofs.Filter.Undo

/-!
# The run of a deploy

A deploy of a group without labels is one call of `send`, with the records that validation lets
through and with their logic packed. The filters fail nowhere, and what they packed they unpack in
what is reported as applied.
-/

namespace ElementSync

theorem RecordChange.toRecord_toChange (r : RecordChange) : r.toChange.toRecord = .ok r := by
  cases r <;> rfl

theorem Change.toChange_of_toRecord {c : Change Element} {r : RecordChange}
    (h : c.toRecord = .ok r) : r.toChange = c := by
  have hstate : ∀ {e : Element} {i : Instance Element}, e.toInst = .ok i → .inst i = e := by
    intro e i hi
    cases e with
    | inst j => cases hi; rfl
    | _ => cases hi
  cases c with
  | addition a =>
    cases ha : a.toInst with
    | error e => simp [Change.toRecord, Change.mapM, ha, bind, Except.bind] at h
    | ok i =>
      simp only [Change.toRecord, Change.mapM, ha] at h
      cases h
      exact congrArg Change.addition (hstate ha)
  | removal b =>
    cases hb : b.toInst with
    | error e => simp [Change.toRecord, Change.mapM, hb, bind, Except.bind] at h
    | ok i =>
      simp only [Change.toRecord, Change.mapM, hb] at h
      cases h
      exact congrArg Change.removal (hstate hb)
  | modification b a =>
    cases hb : b.toInst with
    | error e => simp [Change.toRecord, Change.mapM, hb, bind, Except.bind] at h
    | ok i =>
      cases ha : a.toInst with
      | error e => simp [Change.toRecord, Change.mapM, ha, hb, bind, Except.bind] at h
      | ok j =>
        simp only [Change.toRecord, Change.mapM, ha, hb] at h
        cases h
        rw [← hstate ha, ← hstate hb]
        rfl

theorem Change.toRecord_mapAfter (f : Instance Element → Instance Element) (c : Change Element) :
    (ConditionLogic.mapAfter f c).toRecord.toOption =
      c.toRecord.toOption.map (RecordChange.mapAfter f) := by
  cases c with
  | removal b => cases b <;> rfl
  | addition a => cases a <;> rfl
  | modification b a => cases b <;> cases a <;> rfl

namespace ChangeGroup

theorem mem_instanceChanges {g : ChangeGroup} {r : RecordChange} :
    r ∈ g.instanceChanges ↔ r.toChange ∈ g.changes := by
  rw [instanceChanges, List.mem_filterMap]
  constructor
  · rintro ⟨c, hc, hr⟩
    cases hrecord : c.toRecord with
    | error e => simp [hrecord, Except.toOption] at hr
    | ok r' =>
      rw [hrecord] at hr
      cases hr
      rw [Change.toChange_of_toRecord hrecord]
      exact (List.mem_filter.1 hc).1
  · intro hmem
    have hinst : r.toChange.data.isInst := by cases r <;> rfl
    refine ⟨r.toChange, List.mem_filter.2 ⟨hmem, hinst⟩, ?_⟩
    rw [RecordChange.toRecord_toChange]
    rfl

theorem mem_records {g : ChangeGroup} {r : RecordChange} :
    r ∈ g.records ↔ r.toChange ∈ g.changes ∧ r.data.isRecord := by
  rw [records, List.mem_filter, mem_instanceChanges]

theorem mem_metadata {g : ChangeGroup} {r : RecordChange} :
    r ∈ g.metadata ↔ r.toChange ∈ g.changes ∧ ¬ r.data.isRecord := by
  rw [metadata, List.mem_filter, mem_instanceChanges, Bool.not_eq_true', Bool.not_eq_true]

/-- Packing goes from changes over to the records among them. -/
theorem records_mapAfter (g : ChangeGroup) {f : Instance Element → Instance Element}
    (hf : ∀ i : Instance Element, i.PacksInto (f i)) :
    ChangeGroup.records { g with changes := g.changes.map (ConditionLogic.mapAfter f) } =
      g.records.map (RecordChange.mapAfter f) := by
  have hinst : (fun c : Change Element => c.data.isInst) ∘ ConditionLogic.mapAfter f =
      fun c => c.data.isInst := by
    funext c
    cases c with
    | removal b => rfl
    | addition a => cases a <;> rfl
    | modification b a => cases a <;> rfl
  have hrecord : (fun c : Change Element => c.toRecord.toOption) ∘ ConditionLogic.mapAfter f =
      fun c => c.toRecord.toOption.map (RecordChange.mapAfter f) :=
    funext (Change.toRecord_mapAfter f)
  have hkept : (fun c : RecordChange => Instance.isRecord c.data) ∘ RecordChange.mapAfter f =
      fun c => c.data.isRecord := by
    funext c
    have houtline := (RecordChange.packsInto_mapAfter hf c).outline
    exact congrArg (fun t : ObjectType Element =>
      decide (t.annotationText? AnnotationKey.metadataType = some customObject))
      (Instance.type_eq_of_outline houtline)
  rw [records, records, instanceChanges, instanceChanges]
  dsimp only
  rw [List.filter_map, hinst, List.filterMap_map, hrecord, ← List.map_filterMap, List.filter_map,
    hkept]

end ChangeGroup

namespace Adapter
variable {σ : Type} (a : Adapter)

def unblocked (g : ChangeGroup) : ChangeGroup :=
  { g with changes := Validation.deployable (Validation.run a.validators g.changes) g.changes }

theorem mem_unblocked {g : ChangeGroup} {c : Change Element} :
    c ∈ (a.unblocked g).changes ↔
      c ∈ g.changes ∧ ¬ Validation.isBlocked (Validation.run a.validators g.changes) c := by
  simp [unblocked, Validation.deployable]

def packed (g : ChangeGroup) (f : Instance Element → Instance Element) : List RecordChange :=
  (a.unblocked g).records.map (RecordChange.mapAfter f)

section
variable (client : Client σ) {g : ChangeGroup} (s : Session σ)

/-- With nothing to deploy there is nothing to send. -/
theorem deploy_of_isEmpty (hempty : (a.unblocked g).changes.isEmpty) :
    a.deploy client g s =
      ((a, .ok { findings := Validation.run a.validators g.changes }), s) := by
  rw [deploy]
  exact congrFun (if_pos hempty) s

/-- When the filters fail, nothing is sent. -/
theorem deploy_of_preDeploy_error {fs : List Filter} {cs : List (Change Element)} {e : Failure}
    (hsome : ¬ (a.unblocked g).changes.isEmpty)
    (hpre : Pipeline.preDeploy a.context a.filters (a.unblocked g).changes s =
      ((fs, ⟨cs, .error e⟩), s)) :
    a.deploy client g s = (({ a with filters := fs }, .error e), s) := by
  have hne : ¬ (Validation.deployable (Validation.run a.validators g.changes)
      g.changes).isEmpty = true := hsome
  unfold unblocked at hpre
  simp only [deploy, if_neg hne, bind, StateT.bind, hpre]
  rfl

/-- A deploy in which both hooks of the filters succeed. -/
theorem deploy_of_hooks {fs fs' : List Filter} {cs applied : List (Change Element)} {o : Outcome}
    {s' : Session σ} (hsome : ¬ (a.unblocked g).changes.isEmpty)
    (hpre : Pipeline.preDeploy a.context a.filters (a.unblocked g).changes s =
      ((fs, ⟨cs, .ok ()⟩), s))
    (hprepared : a.deployPrepared client { g with changes := cs } s = (o, s'))
    (hpost : Pipeline.onDeploy fs o.applied s' = ((fs', ⟨applied, .ok ()⟩), s')) :
    a.deploy client g s = (({ a with filters := fs' },
      .ok ⟨applied, Validation.run a.validators g.changes ++ o.findings⟩), s') := by
  have hne : ¬ (Validation.deployable (Validation.run a.validators g.changes)
      g.changes).isEmpty = true := hsome
  unfold unblocked at hpre
  simp only [deploy, if_neg hne, bind, StateT.bind, hpre, hprepared, hpost]
  rfl

/-- When the filters have prepared the changes, the deploy is a call of `send`. -/
theorem deploy_of_preDeploy {fs : List Filter} {cs : List (Change Element)}
    (hsome : ¬ (a.unblocked g).changes.isEmpty)
    (hpre : Pipeline.preDeploy a.context a.filters (a.unblocked g).changes s =
      ((fs, ⟨cs, .ok ()⟩), s)) (hfs : ∀ f ∈ fs, f.isBuiltIn) {sent : DeployResult}
    {s' : Session σ}
    (hsent : a.send client g.id (ChangeGroup.records { g with changes := cs }) s = (sent, s')) :
    ∃ fs' o, a.deploy client g s = (({ a with filters := fs' }, .ok o), s') ∧
      (∀ f ∈ fs', f.isBuiltIn) ∧
      (Pipeline.onDeploy fs (sent.applied.map RecordChange.toChange) s').1.2.left = o.applied := by
  obtain ⟨fs', restored, hpost, hfs', -⟩ := Pipeline.onDeploy_succeeds Filter.onDeploy_succeeds
    (sent.applied.map RecordChange.toChange) s' hfs trivial
  obtain ⟨findings, hprepared⟩ : ∃ findings,
      a.deployPrepared client { g with changes := cs } s =
        (⟨sent.applied.map RecordChange.toChange, findings⟩, s') := by
    unfold ChangeGroup.records at hsent
    simp only [deployPrepared, bind, StateT.bind, hsent]
    exact ⟨_, rfl⟩
  refine ⟨fs', _, a.deploy_of_hooks client s hsome hpre hprepared hpost, hfs', ?_⟩
  rw [hpost]

end

/-- A deploy sends the records packed by `f`, and goes on with filters `fs` and an outcome. -/
structure Deploys (client : Client σ) (g : ChangeGroup) (s : Session σ)
    (f : Instance Element → Instance Element) (fs : List Filter) (o : Outcome) : Prop where
  packs : ∀ i : Instance Element, i.PacksInto (f i)
  deploy_eq : a.deploy client g s =
    (({ a with filters := fs }, .ok o), (a.send client g.id (a.packed g f) s).2)
  isBuiltIn : ∀ f ∈ fs, f.isBuiltIn
  /-- Without saved state, reports of packed records come out as reports of the records. -/
  applied_eq : (∀ f ∈ a.filters, f.SavesNothing) →
    ((a.unblocked g).changes.map Change.id).Nodup →
    Labels.Lacks Labels.containerType (a.unblocked g).changes →
    ∀ reports : List (RecordChange × Values Element),
      (∀ r ∈ reports, r.1 ∈ (a.unblocked g).records ∧
        ∀ key ∈ Assoc.keys r.2, key ∉ ConditionLogic.logicFields) →
      (a.send client g.id (a.packed g f) s).1.applied =
        reports.map (fun r => RecordChange.write (RecordChange.mapAfter f r.1) r.2) →
      o.applied = reports.map fun r => RecordChange.toChange (RecordChange.write r.1 r.2)

theorem exists_deploys_of_isEmpty (client : Client σ) {g : ChangeGroup} (s : Session σ)
    (hfilters : ∀ f ∈ a.filters, f.isBuiltIn) (hempty : (a.unblocked g).changes.isEmpty) :
    ∃ f fs o, a.Deploys client g s f fs o := by
  have hnone : (a.unblocked g).records = [] := by
    rw [List.eq_nil_iff_forall_not_mem]
    intro r hr
    have hmem := (ChangeGroup.mem_records.1 hr).1
    rw [List.isEmpty_iff.1 hempty] at hmem
    cases hmem
  have hsent : a.send client g.id (a.packed g fun i => i) s = ({}, s) := by
    rw [packed, hnone]
    rfl
  refine ⟨fun i => i, a.filters, { findings := Validation.run a.validators g.changes },
    Instance.PacksInto.refl, ?_, hfilters, ?_⟩
  · rw [hsent, a.deploy_of_isEmpty client s hempty]
  · intro _ _ _ reports _ happlied
    rw [hsent] at happlied
    have hreports : reports = [] := List.map_eq_nil_iff.1 happlied.symm
    rw [hreports]
    rfl

theorem exists_deploys (client : Client σ) (g : ChangeGroup) (s : Session σ)
    (hfilters : ∀ f ∈ a.filters, f.isBuiltIn)
    (hlabels : Labels.Lacks Labels.labelType (a.unblocked g).changes) :
    ∃ f fs o, a.Deploys client g s f fs o := by
  by_cases hempty : (a.unblocked g).changes.isEmpty
  case pos => exact a.exists_deploys_of_isEmpty client s hfilters hempty
  case neg =>
    obtain ⟨fs, f, hpacks⟩ := Pipeline.exists_packs (σ := σ) a.context hfilters hlabels
    rcases hsent : a.send client g.id (a.packed g f) s with ⟨sent, s'⟩
    have hrecords : ChangeGroup.records { g with
        changes := (a.unblocked g).changes.map (ConditionLogic.mapAfter f) } = a.packed g f :=
      (a.unblocked g).records_mapAfter hpacks.packs
    obtain ⟨fs', o, hdeploy, hfs', happlied⟩ := a.deploy_of_preDeploy client s hempty
      (hpacks.preDeploy_eq s) hpacks.isBuiltIn (hrecords ▸ hsent)
    refine ⟨f, fs', o, hpacks.packs, by rw [hsent, hdeploy], hfs', ?_⟩
    intro hsaved hids hlacks reports hreports hreported
    rw [hsent] at hreported
    have hreports' : ∀ r ∈ reports.map fun r => (RecordChange.toChange r.1, r.2),
        Pipeline.IsReportOf (a.unblocked g).changes r := by
      intro r hr
      obtain ⟨report, hreport, rfl⟩ := List.mem_map.1 hr
      obtain ⟨hmem, hkeys⟩ := hreports report hreport
      exact ⟨(ChangeGroup.mem_records.1 hmem).1, hkeys⟩
    obtain ⟨fs₃, hrun⟩ := hpacks.takesBack hsaved hids hlacks _ hreports' s'
    simp only [List.map_map, Function.comp_def, ← RecordChange.toChange_mapAfter,
      ← RecordChange.toChange_write] at hrun
    rw [← happlied, hreported, List.map_map, Pipeline.onDeploy]
    simp only [bind, StateT.bind, Function.comp_def, hrun]
    rfl

end Adapter

end ElementSync
