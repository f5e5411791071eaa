import ElementSync.Proofs.Adapter.GroupRuns
import ElementSync.Proofs.Adapter.Prepared

/-!
# When a deploy fails

Of all that may go wrong in a deploy of a group only one thing makes it fail: a label has to be
deployed and there is no type for the container of labels. The filters notice this before the client
is called, so a deploy that fails leaves the client as it was. What the filters keep from before has
no part in it.
-/

namespace ElementSync

open ConditionLogic

namespace Adapter
variable {σ : Type} (a : Adapter) {g : ChangeGroup}

theorem hasStrayLabels_iff : a.HasStrayLabels g ↔
    (∃ c ∈ g.changes, Labels.isLabelChange c ∧
      ¬ Validation.isBlocked (Validation.run a.validators g.changes) c) ∧
    Labels.knownType? a.source = none := by
  rw [HasStrayLabels, Option.isNone_iff_eq_none, not_lacks_labels_iff]

section
variable (maxDescribes : Nat) (templates : SavedByType) (labels : List (Change Element))
  (client : Client σ) (s : Session σ)

/-- Labels without a place to go stop the filters. -/
theorem exists_preDeploy_error (hstray : a.HasStrayLabels g) :
    ∃ fs cs, Pipeline.preDeploy a.context (Filter.builtInWith maxDescribes templates labels)
      (a.unblocked g).changes s = ((fs, ⟨cs, .error Labels.missingType⟩), s) := by
  have hlabels : ¬ Labels.Lacks Labels.labelType
      (packChanges a.source (a.unblocked g).changes) :=
    fun hlacks => hstray.1 (Pipeline.lacks_packChanges_iff.1 hlacks)
  have hmerge : (Labels.merge a.source (packChanges a.source (a.unblocked g).changes)).2 =
      .error Labels.missingType := by
    rcases Labels.merge_result a.source (packChanges a.source (a.unblocked g).changes) with h | h
    · rcases Labels.merge_eq_ok_iff.1 h with hlacks | hknown
      · exact absurd hlacks hlabels
      · simp [Option.isNone_iff_eq_none.1 hstray.2] at hknown
    · exact h
  have hrun := Pipeline.preDeploy_builtInWith_eq maxDescribes a.context templates labels
    (a.unblocked g).changes s
  dsimp only [context] at hrun
  rw [hmerge] at hrun
  exact ⟨_, _, hrun⟩

theorem deploy_of_hasStrayLabels (hstray : a.HasStrayLabels g) :
    ((a.withSaved maxDescribes templates labels).deploy client g s).1.2 =
      .error Labels.missingType := by
  obtain ⟨fs, cs, hpre⟩ := a.exists_preDeploy_error maxDescribes templates labels s hstray
  rw [(a.withSaved maxDescribes templates labels).deploy_of_preDeploy_error client s
    hstray.not_isEmpty hpre]

variable (g)

/-- A deploy fails if and only if a label that validation lets through has no container to go into.
Then the client has not been called. -/
theorem deploy_fails_iff :
    let run := (a.withSaved maxDescribes templates labels).deploy client g s
    ((∃ e, run.1.2 = .error e) ↔
      (∃ c ∈ g.changes, Labels.isLabelChange c ∧
        ¬ Validation.isBlocked (Validation.run a.validators g.changes) c) ∧
      Labels.knownType? a.source = none) ∧
    ∀ e, run.1.2 = .error e → e = Labels.missingType ∧ run.2 = s := by
  intro run
  rw [← hasStrayLabels_iff]
  -- A deploy goes through, or it fails for stray labels and leaves the session. In the first case
  -- there are none, since with them the filters would have failed.
  obtain ⟨fs, -, ⟨o, xs, s', hdeploy, -⟩ | ⟨hdeploy, hstray⟩⟩ :=
    (a.withSaved maxDescribes templates labels).deploy_ends
      (fun f hf => Filter.isBuiltIn_of_mem_builtInWith hf) client g s
  case inl =>
    have hok : ∀ e, run.1.2 ≠ .error e := by
      intro e he
      simp [run, hdeploy] at he
    refine ⟨⟨?_, ?_⟩, ?_⟩
    · rintro ⟨e, he⟩
      exact absurd he (hok e)
    · intro hstray
      exact absurd (a.deploy_of_hasStrayLabels maxDescribes templates labels client s hstray)
        (hok _)
    · intro e he
      exact absurd he (hok e)
  case inr =>
    have hfails : run.1.2 = .error Labels.missingType := by simp only [run, hdeploy]
    refine ⟨⟨fun _ => hstray, fun _ => ⟨_, hfails⟩⟩, ?_⟩
    intro e he
    rw [hfails] at he
    refine ⟨(Except.error.inj he).symm, ?_⟩
    simp only [run, hdeploy]

end

end Adapter

end ElementSync
