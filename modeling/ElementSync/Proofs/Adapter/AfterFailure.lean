import ElementSync.Proofs.Adapter.GroupRuns
import ElementSync.Proofs.ConditionLogic.Survival
import ElementSync.Proofs.Filter.Leftovers

/-!
# Deploys after a failed one

A deploy that fails leaves the client alone and the packed templates with the adapter. The next
deploy makes the same calls and finds the same as one on a fresh adapter. It differs in what it
reports as applied: of the types of which it packs no logic itself, the rules come with the templates
of the deploy that failed.
-/

namespace ElementSync

open ConditionLogic

def Outcome.restored (kept : SavedByType) (o : Outcome) : Outcome :=
  { o with applied := restoreChanges kept o.applied }

theorem Outcome.restored_eq_self_iff {kept : SavedByType} {o : Outcome} :
    o.restored kept = o ↔ ∀ i ∈ afterInstances o.applied, KeepsTemplate kept i := by
  rw [← restoreChanges_eq_self_iff]
  constructor
  · intro h
    exact congrArg Outcome.applied h
  · intro h
    rw [restored, h]

namespace Adapter
variable {σ : Type} (a : Adapter) (maxDescribes : Nat)

def withTemplates (kept : SavedByType) : Adapter :=
  { a with filters := Filter.builtInWith maxDescribes kept [] }

theorem withTemplates_ofProfile (c : Config) (profile : FetchProfile) :
    (ofProfile c profile).withTemplates c.client.maxDescribes [] = ofProfile c profile := rfl

def keptAfter (g : ChangeGroup) (kept : SavedByType) : SavedByType :=
  saveChanges a.source (a.unblocked g).changes kept

/-- How a deploy of a group goes, whatever templates the adapter keeps from before. -/
inductive Goes (client : Client σ) (g : ChangeGroup) (s : Session σ) : Prop
  | idle (findings : List Finding) (h : ∀ kept,
      (a.withTemplates maxDescribes kept).deploy client g s =
        ((a.withTemplates maxDescribes kept, .ok { findings }), s))
  | fails (e : Failure) (h : ∀ kept,
      (a.withTemplates maxDescribes kept).deploy client g s =
        ((a.withTemplates maxDescribes (a.keptAfter g kept), .error e), s))
  | succeeds (applied : List (Change Element)) (findings : List Finding) (s' : Session σ)
      (h : ∀ kept, (a.withTemplates maxDescribes kept).deploy client g s =
        ((a.withTemplates maxDescribes [],
          .ok { applied := restoreChanges (a.keptAfter g kept) applied, findings }), s'))

theorem goes (client : Client σ) (g : ChangeGroup) (s : Session σ) :
    a.Goes maxDescribes client g s := by
  let findings := Validation.run a.validators g.changes
  by_cases hempty : (a.unblocked g).changes.isEmpty
  case pos =>
    exact .idle findings fun kept =>
      (a.withTemplates maxDescribes kept).deploy_of_isEmpty client s hempty
  case neg =>
    obtain ⟨changes, left, result, hnone, hpre⟩ :=
      Pipeline.preDeploy_builtInWith (σ := σ) maxDescribes a.context (a.unblocked g).changes
    cases result with
    | error e =>
      obtain rfl := hnone e rfl
      exact .fails e fun kept =>
        (a.withTemplates maxDescribes kept).deploy_of_preDeploy_error client s hempty (hpre kept s)
    | ok u =>
      rcases hsent : a.deployPrepared client { g with changes := left } s with ⟨sent, s'⟩
      exact .succeeds (Labels.restore changes sent.applied) (findings ++ sent.findings) s'
        fun kept => (a.withTemplates maxDescribes kept).deploy_of_hooks client s hempty
          (hpre kept s) hsent (Pipeline.onDeploy_builtInWith maxDescribes _ changes _ s')

/-- A deploy that fails leaves the session alone and keeps the templates that it packed. -/
theorem eq_of_deploy_error {client : Client σ} {g : ChangeGroup} {s : Session σ}
    {kept : SavedByType} {a' : Adapter} {e : Failure}
    (h : ((a.withTemplates maxDescribes kept).deploy client g s).1 = (a', .error e)) :
    a' = a.withTemplates maxDescribes (a.keptAfter g kept) ∧
      ((a.withTemplates maxDescribes kept).deploy client g s).2 = s := by
  cases a.goes maxDescribes client g s with
  | idle findings hgoes => rw [hgoes] at h; cases h
  | fails e' hgoes => rw [hgoes] at h ⊢; cases h; exact ⟨rfl, rfl⟩
  | succeeds applied findings s' hgoes => rw [hgoes] at h; cases h

/-- With templates kept from before, a deploy goes as on a fresh adapter, but for the templates that
are restored in the end. -/
theorem deploy_withTemplates (client : Client σ) (g : ChangeGroup) (s : Session σ)
    (kept : SavedByType) :
    let fresh := (a.withTemplates maxDescribes []).deploy client g s
    let next := (a.withTemplates maxDescribes kept).deploy client g s
    next.2 = fresh.2 ∧ next.1.2 =
      fresh.1.2.map (·.restored (leftover a.source (a.unblocked g).changes kept)) := by
  cases a.goes maxDescribes client g s with
  | idle findings hgoes => rw [hgoes, hgoes]; exact ⟨rfl, rfl⟩
  | fails e hgoes => rw [hgoes, hgoes]; exact ⟨rfl, rfl⟩
  | succeeds applied findings s' hgoes =>
    have hrestored := restoreChanges_saveChanges a.source (a.unblocked g).changes kept applied
    rw [hgoes, hgoes]
    exact ⟨rfl, congrArg (fun cs => Except.ok (Outcome.mk cs findings)) hrestored⟩

/-- After a failed deploy the same calls are made as on a fresh adapter, and the outcome is that of
a fresh adapter with the leftover templates restored. It is the same exactly if these templates are
what the fresh adapter reports, too. -/
theorem deploy_after_failure (client : Client σ) (kept : SavedByType) (g₁ g₂ : ChangeGroup)
    (s : Session σ) {a' : Adapter} {e : Failure}
    (hfails : ((a.withTemplates maxDescribes kept).deploy client g₁ s).1 = (a', .error e)) :
    let fresh := (a.withTemplates maxDescribes []).deploy client g₂ s
    let next := a'.deploy client g₂ ((a.withTemplates maxDescribes kept).deploy client g₁ s).2
    let left := leftover a.source (a.unblocked g₂).changes (a.keptAfter g₁ kept)
    next.2 = fresh.2 ∧ next.1.2 = fresh.1.2.map (·.restored left) ∧
      (next.1.2 = fresh.1.2 ↔
        ∀ o, fresh.1.2 = .ok o → ∀ i ∈ afterInstances o.applied, KeepsTemplate left i) := by
  intro fresh next left
  obtain ⟨hadapter, hsession⟩ := a.eq_of_deploy_error maxDescribes hfails
  have hnext : next = (a.withTemplates maxDescribes (a.keptAfter g₁ kept)).deploy client g₂ s := by
    rw [← hadapter]
    exact congrArg (a'.deploy client g₂) hsession
  obtain ⟨hcalls, houtcome⟩ :=
    a.deploy_withTemplates maxDescribes client g₂ s (a.keptAfter g₁ kept)
  rw [← hnext] at hcalls houtcome
  refine ⟨hcalls, houtcome, ?_⟩
  rw [houtcome]
  change fresh.1.2.map (·.restored left) = fresh.1.2 ↔ _
  cases fresh.1.2 with
  | error e => simp [Except.map]
  | ok o => simp [Except.map, Outcome.restored_eq_self_iff]

/-- A rule as it was fetched, together with a label that has no place to go. -/
def tierAndLabel : ChangeGroup :=
  ⟨"rules", [.modification (.inst Filter.tierRule)
    (.inst (unpackInstance Filter.tiers Filter.tierRule)), .addition (.inst greeting)]⟩

def tierRewritten : ChangeGroup :=
  ⟨"rules", [.modification (.inst Filter.tierRule)
    (.inst (Filter.tierRule.set "sbaa__AdvancedCondition__c" (.text "3")))]⟩

theorem deploy_after_failure_tier :
    let a := ofProfile {} {}
    let client := InMemory.client {}
    let failed := a.deploy client tierAndLabel { state := 0 }
    failed.1.2 = .error Labels.missingType ∧
      (failed.1.1.deploy client tierRewritten failed.2).2 =
        (a.deploy client tierRewritten { state := 0 }).2 := by
  intro a client failed
  let maxDescribes := ({} : Config).client.maxDescribes
  have hfresh : a.withTemplates maxDescribes [] = a := withTemplates_ofProfile {} {}
  have hfails : failed.1 = (failed.1.1, .error Labels.missingType) := rfl
  have hafter := a.deploy_after_failure maxDescribes client [] tierAndLabel tierRewritten
    { state := 0 } (by rw [hfresh]; exact hfails)
  rw [hfresh] at hafter
  exact ⟨congrArg Prod.snd hfails, hafter.1⟩

/-- The logic that the rule was sent with is text. It is reported as such by a fresh adapter, and
as the template of the failed deploy by the one that failed. -/
theorem deploy_leftover_tier :
    let a := ofProfile {} {}
    let client := InMemory.client {}
    let logic (r : Except Failure Outcome) := r.toOption.map fun o => o.applied.map fun c =>
      c.data.inst?.bind (·.text? "sbaa__AdvancedCondition__c")
    let failed := a.deploy client tierAndLabel { state := 0 }
    let fresh := a.deploy client tierRewritten { state := 0 }
    let next := failed.1.1.deploy client tierRewritten failed.2
    failed.1.2 = .error Labels.missingType ∧ next.1.2 ≠ fresh.1.2 ∧
      logic fresh.1.2 = some [some "3"] ∧ logic next.1.2 = some [none] := by
  intro a client logic failed fresh next
  have hfresh : logic fresh.1.2 = some [some "3"] := by decide +kernel
  have hnext : logic next.1.2 = some [none] := by decide +kernel
  refine ⟨rfl, ?_, hfresh, hnext⟩
  intro heq
  rw [heq, hfresh] at hnext
  exact absurd hnext (by decide)

end Adapter

end ElementSync
