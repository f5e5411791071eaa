import ElementSync.Proofs.Adapter.GroupOrder
import ElementSync.Proofs.Deploy.BatchReports

/-!
# How far a deploy of several groups gets

Groups are deployed in turn until the filters fail for one. The built-in filters fail only before
they let a group go out, so the client has been called for the groups before it and for no other.
What these have applied is reported only when no group fails.
-/

namespace ElementSync

namespace Adapter
variable {σ : Type} (a : Adapter) {client : Client σ} {g : ChangeGroup}

def HasStrayLabels (g : ChangeGroup) : Prop :=
  ¬ Labels.Lacks Labels.labelType (a.unblocked g).changes ∧
    (Labels.knownType? a.source).isNone

variable {a} in
theorem HasStrayLabels.not_isEmpty (h : a.HasStrayLabels g) :
    ¬ (a.unblocked g).changes.isEmpty := by
  intro hempty
  refine h.1 fun c hc => ?_
  rw [List.isEmpty_iff.1 hempty] at hc
  cases hc

section
variable (hfilters : ∀ f ∈ a.filters, f.isBuiltIn)
include hfilters

/-- A group that is not deployed makes no call. -/
theorem deploy_ends (client : Client σ) (g : ChangeGroup) (s : Session σ) :
    ∃ fs, (∀ f ∈ fs, f.isBuiltIn) ∧
      ((∃ o xs s', a.deploy client g s = (({ a with filters := fs }, .ok o), s') ∧
        client.Exchanges s xs s') ∨
      (a.deploy client g s = (({ a with filters := fs }, .error Labels.missingType), s) ∧
        a.HasStrayLabels g)) := by
  by_cases hfits : Labels.Lacks Labels.labelType (a.unblocked g).changes ∨
    (Labels.knownType? a.source).isSome
  case pos =>
    obtain ⟨fs, o, xs, s', hdeploy, hfs, hcalls⟩ := a.deploy_succeeds hfilters client s hfits
    exact ⟨fs, hfs, Or.inl ⟨o, xs, s', hdeploy, hcalls⟩⟩
  case neg =>
    have hstray : a.HasStrayLabels g := by
      obtain ⟨hlabels, hknown⟩ := not_or.1 hfits
      exact ⟨hlabels, by simpa using hknown⟩
    have hsome := hstray.not_isEmpty
    obtain ⟨fs, cs, result, hpre, hfs, hok | hfails⟩ := Pipeline.run_mayFail
      (Filter.preDeploy_mayFail a.context) a.filters (a.unblocked g).changes s hfilters
    · subst hok
      obtain ⟨fs', o, xs, s', hdeploy, hfs', hcalls⟩ :=
        a.deploy_goes_through client s hsome hpre hfs
      exact ⟨fs', hfs', Or.inl ⟨o, xs, s', hdeploy, hcalls⟩⟩
    · subst hfails
      exact ⟨fs, hfs, Or.inr ⟨a.deploy_of_preDeploy_error client s hsome hpre, hstray⟩⟩

end

structure GroupRun where
  group : ChangeGroup
  calls : List Exchange
  outcome : Outcome

/-- `DeploysInTurn client a s rs a' s'`: the deploys `rs`, one after the other, lead from the
adapter `a` and the session `s` to the adapter `a'` and the session `s'`. -/
inductive DeploysInTurn (client : Client σ) :
    Adapter → Session σ → List GroupRun → Adapter → Session σ → Prop
  | nil (a : Adapter) (s : Session σ) : DeploysInTurn client a s [] a s
  | cons {a a' a'' : Adapter} {s s' s'' : Session σ} {r : GroupRun} {rs : List GroupRun}
      (first : a.deploy client r.group s = ((a', .ok r.outcome), s'))
      (calls : client.Exchanges s r.calls s') (rest : DeploysInTurn client a' s' rs a'' s'') :
      DeploysInTurn client a s (r :: rs) a'' s''

theorem DeploysInTurn.exchanges {a a' : Adapter} {s s' : Session σ} {rs : List GroupRun}
    (h : DeploysInTurn client a s rs a' s') :
    client.Exchanges s (rs.flatMap GroupRun.calls) s' := by
  induction h with
  | nil => exact .nil _
  | cons _ calls _ ih => exact calls.append ih

/-- How a deploy of groups ends after the deploys `rs`: with what they applied, or before the first
group that fails. -/
def EndsAfter (client : Client σ) (gs : List ChangeGroup) (rs : List GroupRun) (a : Adapter)
    (s : Session σ) : Except Failure Outcome → Prop
  | .ok o => gs = rs.map GroupRun.group ∧ o.applied = rs.flatMap fun r => r.outcome.applied
  | .error e => ∃ g gs', gs = rs.map GroupRun.group ++ g :: gs' ∧
    (a.deploy client g s).1.2 = .error e ∧ (a.deploy client g s).2 = s ∧ a.HasStrayLabels g

theorem deployGroups_ends (hfilters : ∀ f ∈ a.filters, f.isBuiltIn) (client : Client σ)
    (gs : List ChangeGroup) (s : Session σ) :
    ∃ rs fs, DeploysInTurn client a s rs { a with filters := fs }
        (a.deployGroups client gs s).2 ∧
      EndsAfter client gs rs { a with filters := fs } (a.deployGroups client gs s).2
        (a.deployGroups client gs s).1.2 := by
  induction gs generalizing a s with
  | nil => exact ⟨[], a.filters, .nil a s, rfl, rfl⟩
  | cons g gs ih =>
    obtain ⟨fs, hfs, ⟨o, xs, s', hdeploy, hcalls⟩ | ⟨hdeploy, hstray⟩⟩ :=
      a.deploy_ends hfilters client g s
    · obtain ⟨rs, fs', hrest, hends⟩ := ih { a with filters := fs } hfs s'
      rcases hrun : deployGroups client { a with filters := fs } gs s' with ⟨⟨a', result⟩, s''⟩
      have hall : a.deployGroups client (g :: gs) s = ((a', result.map o.append), s'') := by
        simp only [deployGroups, bind, StateT.bind, hdeploy, hrun]
        rfl
      rw [hrun] at hrest hends
      rw [hall]
      refine ⟨⟨g, xs, o⟩ :: rs, fs', .cons hdeploy hcalls hrest, ?_⟩
      cases result with
      | ok o' =>
        obtain ⟨hgs, happlied⟩ := hends
        exact ⟨congrArg (g :: ·) hgs, congrArg (o.applied ++ ·) happlied⟩
      | error e =>
        obtain ⟨g', gs', hgs, hfails⟩ := hends
        exact ⟨g', gs', congrArg (g :: ·) hgs, hfails⟩
    · have hall : a.deployGroups client (g :: gs) s =
          (({ a with filters := fs }, .error Labels.missingType), s) := by
        simp only [deployGroups, bind, StateT.bind, hdeploy]
        rfl
      rw [hall]
      refine ⟨[], a.filters, .nil a s, g, gs, rfl, ?_, ?_, hstray⟩
      · exact congrArg (fun r => r.1.2) hdeploy
      · exact congrArg Prod.snd hdeploy

/-- The groups of a list of changes are deployed in the order in which they come until the labels
of one have no place to go. The client is called for the groups before it only. A deploy of all
groups reports exactly what each of them applied. -/
theorem deployChanges_ends (client : Client σ) (cs : List (Change Element)) (s : Session σ)
    (hfilters : ∀ f ∈ a.filters, f.isBuiltIn) :
    ∃ rs fs, DeploysInTurn client a s rs { a with filters := fs }
        (a.deployChanges client cs s).2 ∧
      client.Exchanges s (rs.flatMap GroupRun.calls) (a.deployChanges client cs s).2 ∧
      EndsAfter client (ChangeGroup.ofChanges cs) rs { a with filters := fs }
        (a.deployChanges client cs s).2 (a.deployChanges client cs s).1.2 := by
  obtain ⟨rs, fs, hrun, hends⟩ :=
    a.deployGroups_ends hfilters client (ChangeGroup.ofChanges cs) s
  exact ⟨rs, fs, hrun, hrun.exchanges, hends⟩

def greeting : Instance Element where
  name := "Greeting"
  type := { id := .type salesforce Labels.labelType }

def accountAndLabel : List (Change Element) :=
  [.addition (.inst acme), .addition (.inst greeting)]

theorem deployChanges_ends_label :
    ∃ rs fs g gs, DeploysInTurn (InMemory.client {}) (ofProfile {} {}) { state := 0 } rs
        { ofProfile {} {} with filters := fs }
        ((ofProfile {} {}).deployChanges (InMemory.client {}) accountAndLabel { state := 0 }).2 ∧
      ChangeGroup.ofChanges accountAndLabel = rs.map GroupRun.group ++ g :: gs ∧
      (ofProfile {} {}).HasStrayLabels g := by
  obtain ⟨rs, fs, hrun, -, hends⟩ := (ofProfile {} {}).deployChanges_ends (InMemory.client {})
    accountAndLabel { state := 0 } fun f hf => Filter.isBuiltIn_of_mem_builtIn hf
  have hfails : ((ofProfile {} {}).deployChanges (InMemory.client {}) accountAndLabel
      { state := 0 }).1.2 = .error Labels.missingType := rfl
  rw [hfails] at hends
  obtain ⟨g, gs, hgs, -, -, hstray⟩ := hends
  exact ⟨rs, fs, g, gs, hrun, hgs, hstray⟩

/-- The account is created, and the failure of the group behind it is all that is reported. -/
theorem deployChanges_account_unreported :
    let client := Client.answering (.done { applied := [.addition acme] })
    let run := (ofProfile {} {}).deployChanges client accountAndLabel { state := () }
    (∀ f ∈ (ofProfile {} {}).filters, f.isBuiltIn) ∧ run.1.2 = .error Labels.missingType ∧
      ∃ xs, client.Exchanges { state := () } xs run.2 ∧
        xs.map (fun x => x.answer.appliedIds) = [[acme.id]] := by
  intro client run
  have hfilters : ∀ f ∈ (ofProfile {} {}).filters, f.isBuiltIn :=
    fun f hf => Filter.isBuiltIn_of_mem_builtIn hf
  obtain ⟨rs, fs, hrun, -⟩ := (ofProfile {} {}).deployGroups_ends hfilters client
    (ChangeGroup.ofChanges accountAndLabel) { state := () }
  have hbatches : (rs.flatMap GroupRun.calls).length = 1 := by
    rw [← List.length_map, ← List.nil_append (List.map Exchange.sent _),
      ← hrun.exchanges.batches_eq]
    decide +kernel
  obtain ⟨x, hx⟩ := List.length_eq_one_iff.1 hbatches
  have hcalls : client.Exchanges { state := () } [x] run.2 := hx ▸ hrun.exchanges
  have hanswer : ∀ y ∈ [x], y.answer = .done { applied := [.addition acme] } :=
    hcalls.forall_answer (P := fun _ answer => answer = .done { applied := [.addition acme] })
      fun _ _ => rfl
  refine ⟨hfilters, rfl, [x], hcalls, ?_⟩
  rw [List.map_singleton, hanswer x List.mem_cons_self]
  rfl

end Adapter

end ElementSync
