import ElementSync.Proofs.Client.Answers
import ElementSync.Proofs.Deploy.RestoredRules

/-!
# Deploys account for their changes

A batch loses no change and reports none twice. So does an approval deploy: a rule counts as
applied or has an error from the first or the third call, and a condition is sent or has an error
of its own.
-/

namespace ElementSync

namespace Deploy

variable {changes : List RecordChange} {a : BatchAnswer}

theorem outcome_accounts (hids : (changes.map RecordChange.id).Nodup)
    (h : a.AnswersEach (changes.map RecordChange.id)) :
    (outcome changes a).Accounts (changes.map RecordChange.id) := by
  cases a with
  | done r =>
    have hnodup : (r.appliedIds ++ Finding.errorIds r.findings).Nodup := h.nodup_iff.2 hids
    have hmatched : ((matchReports changes r.applied).map RecordChange.id).Perm r.appliedIds := by
      rw [List.perm_ext_iff_of_nodup (nodup_ids_matchReports _ _) (List.nodup_append.1 hnodup).1]
      intro i
      rw [mem_ids_matchReports]
      exact and_iff_right_of_imp fun hi => h.mem_iff.1 (List.mem_append_left _ hi)
    exact (hmatched.append_right _).trans h
  | failed e =>
    exact List.Perm.of_eq (Finding.errorIds_map_error changes _ _ _)
  | crashed text =>
    exact List.Perm.of_eq (Finding.errorIds_map_error changes _ _ _)

end Deploy

namespace Client.AnswersEach
variable {σ : Type} {client : Client σ}

/-- In every exchange about a batch without repeated ids. -/
theorem answer {s s' : Session σ} {xs : List Exchange} (hclient : client.AnswersEach)
    (h : client.Exchanges s xs s') {x : Exchange} (hx : x ∈ xs) {ids : List ElementId}
    (hsent : x.sent.map RecordChange.id = ids) (hids : ids.Nodup) : x.answer.AnswersEach ids := by
  subst hsent
  exact h.forall_answer (P := fun sent a => (sent.map RecordChange.id).Nodup →
    a.AnswersEach (sent.map RecordChange.id))
    (fun records state hnodup => hclient records hnodup state) x hx hids

end Client.AnswersEach

theorem Deploy.batch_accounts {σ : Type} {client : Client σ} (hclient : client.AnswersEach)
    (resolver : Resolver) {changes : List RecordChange}
    (hids : (changes.map RecordChange.id).Nodup) (s : Session σ) :
    (batch client resolver changes s).1.Accounts (changes.map RecordChange.id) := by
  obtain ⟨x, s', hcall, hsent, hrun⟩ := batch_run client resolver changes s
  rw [hrun]
  apply outcome_accounts hids
  apply hclient.answer (Client.Exchanges.single hcall) (List.mem_singleton_self x) _ hids
  rw [hsent, RecordChange.ids_resolveChange]

namespace Approval

theorem ids_finalRules (ids : Assoc ElementId (Value Element)) (rules : List RecordChange) :
    (finalRules ids rules).map Instance.id =
      (rules.map RecordChange.id).filter fun i => (ids.lookup i).isSome := by
  induction rules with
  | nil => rfl
  | cons c rules ih =>
    rw [List.map_cons]
    cases hv : ids.lookup c.id with
    | none =>
      rw [finalRules, List.filterMap_cons_none (by rw [hv]; rfl),
        List.filter_cons_of_neg (by simp [hv])]
      exact ih
    | some v =>
      rw [finalRules, List.filterMap_cons_some (by rw [hv]; rfl),
        List.filter_cons_of_pos (by simp [hv]), List.map_cons]
      exact congrArg (c.id :: ·) ih

theorem exists_of_linkCondition_inr {ruleIds : List ElementId}
    {ids : Assoc ElementId (Value Element)} {c : RecordChange} {f : Finding}
    (h : linkCondition ruleIds ids c = .inr f) : ∃ i, f = missingRule c.id i := by
  unfold linkCondition at h
  split at h
  · cases h
  · split at h
    · split at h
      · cases h
      · cases h
        exact ⟨_, rfl⟩
    · cases h

theorem isSome_find?_reverse {is : List (Instance Element)} {i : ElementId} :
    (is.reverse.find? (·.id = i)).isSome ↔ i ∈ is.map Instance.id := by
  simp [List.find?_isSome]

/-- Only a rule that waits for the third call and is not confirmed goes. -/
theorem ids_mergeRules (is : List (Instance Element)) (confirmed : List ElementId)
    (applied : List RecordChange) :
    (mergeRules is confirmed applied).map RecordChange.id =
      (applied.map RecordChange.id).filter fun i => i ∉ is.map Instance.id ∨ i ∈ confirmed := by
  induction applied with
  | nil => rfl
  | cons c applied ih =>
    rw [List.map_cons]
    cases hfind : is.reverse.find? (·.id = c.id) with
    | none =>
      have hnot : c.id ∉ is.map Instance.id := by
        rw [← isSome_find?_reverse, hfind]
        decide
      rw [mergeRules, List.filterMap_cons_some (by rw [hfind]),
        List.filter_cons_of_pos (by simpa using Or.inl hnot), List.map_cons]
      exact congrArg (c.id :: ·) ih
    | some i =>
      have hi : i.id = c.id := by simpa using List.find?_some hfind
      have hmem : c.id ∈ is.map Instance.id := by
        rw [← isSome_find?_reverse, hfind]
        rfl
      by_cases hconfirmed : c.id ∈ confirmed
      · have hkept : i.id ∈ confirmed := hi ▸ hconfirmed
        rw [mergeRules, List.filterMap_cons_some (by rw [hfind]; exact if_pos hkept),
          List.filter_cons_of_pos (by simpa using Or.inr hconfirmed), List.map_cons]
        rw [show RecordChange.id (.addition i) = c.id from hi]
        exact congrArg (c.id :: ·) ih
      · have hgone : i.id ∉ confirmed := hi ▸ hconfirmed
        rw [mergeRules, List.filterMap_cons_none (by rw [hfind]; exact if_neg hgone),
          List.filter_cons_of_neg (by simp [hconfirmed, hmem])]
        exact ih

/-- A condition is sent, or there is an error about it. -/
theorem linkConditions_perm (ruleIds : List ElementId) (ids : Assoc ElementId (Value Element))
    (cs : List RecordChange) :
    (((cs.map (linkCondition ruleIds ids)).filterMap Sum.getLeft?).map RecordChange.id ++
      Finding.errorIds ((cs.map (linkCondition ruleIds ids)).filterMap Sum.getRight?)).Perm
      (cs.map RecordChange.id) := by
  induction cs with
  | nil => exact List.Perm.refl []
  | cons c cs ih =>
    rw [List.map_cons, List.map_cons]
    cases hlink : linkCondition ruleIds ids c with
    | inl d =>
      have hid : d.id = c.id := id_linkCondition (congrArg Sum.getLeft? hlink)
      simp only [List.filterMap_cons, Sum.getLeft?_inl, Sum.getRight?_inl, List.map_cons, hid]
      exact ih.cons c.id
    | inr f =>
      obtain ⟨i, rfl⟩ := exists_of_linkCondition_inr hlink
      simp only [List.filterMap_cons, Sum.getLeft?_inr, Sum.getRight?_inr]
      rw [Finding.errorIds_cons rfl]
      exact List.perm_middle.trans (ih.cons c.id)

section
variable {changes : List RecordChange} {a₁ a₂ a₃ : BatchAnswer}

theorem ids_restoreBatch :
    (restoreBatch changes a₁).map RecordChange.id = (finals changes a₁).map Instance.id := by
  rw [restoreBatch, List.map_map]
  rfl

/-- The third call is about rules that the first call applied. -/
theorem mem_appliedIds_of_mem_finals {i : ElementId}
    (h : i ∈ (finals changes a₁).map Instance.id) : i ∈ (rulesResult changes a₁).appliedIds := by
  rw [finals, ids_finalRules] at h
  have hknown := (List.mem_filter.1 h).2
  have happlied := Deploy.applied_outcome (Plan.ofChanges changes).firstBatch a₁
  have hnodup : ((rulesResult changes a₁).applied.map RecordChange.id).Nodup := by
    rw [rulesResult, happlied]
    exact Deploy.nodup_ids_matchReports _ _
  rw [knownIds, assignedIds, lookup_assigned hnodup] at hknown
  obtain ⟨v, hv⟩ := Option.isSome_iff_exists.1 hknown
  obtain ⟨c, hc, -⟩ := Option.bind_eq_some_iff.1 hv
  exact RecordChange.isSome_find?_id.1 (hc ▸ rfl)

/-- A rule of the first call is applied in the end, or the third call has an error about it. -/
theorem mergeRules_perm (hrules : (rulesResult changes a₁).appliedIds.Nodup)
    (hfinals : ((finals changes a₁).map Instance.id).Nodup) {restored : DeployResult}
    (h : restored.Accounts ((finals changes a₁).map Instance.id)) :
    ((mergeRules (finals changes a₁) restored.appliedIds (rulesResult changes a₁).applied).map
        RecordChange.id ++ Finding.errorIds restored.findings).Perm
      (rulesResult changes a₁).appliedIds := by
  rw [ids_mergeRules, List.perm_iff_count]
  intro i
  have hi := accounts_iff.1 h i
  rw [List.count_append]
  by_cases hfinal : i ∈ (finals changes a₁).map Instance.id
  case pos =>
    have happlied := mem_appliedIds_of_mem_finals hfinal
    rw [hfinals.count, if_pos hfinal] at hi
    by_cases hconfirmed : i ∈ restored.appliedIds
    · have hcount : 0 < restored.appliedIds.count i := List.count_pos_iff.2 hconfirmed
      rw [List.count_filter (by simpa using Or.inr hconfirmed)]
      have hrule := hrules.count (a := i)
      rw [if_pos happlied] at hrule
      change (rulesResult changes a₁).appliedIds.count i + _ = _
      omega
    · have hgone : i ∉ (rulesResult changes a₁).appliedIds.filter fun j =>
          j ∉ (finals changes a₁).map Instance.id ∨ j ∈ restored.appliedIds := by
        intro hmem
        rcases of_decide_eq_true (List.mem_filter.1 hmem).2 with hnot | hyes
        · exact hnot hfinal
        · exact hconfirmed hyes
      rw [hrules.count, if_pos happlied]
      rw [List.count_eq_zero.2 hconfirmed] at hi
      change ((rulesResult changes a₁).appliedIds.filter _).count i + _ = 1
      rw [List.count_eq_zero.2 hgone]
      exact hi
  case neg =>
    rw [List.count_eq_zero.2 hfinal] at hi
    rw [List.count_filter (by simpa using Or.inl hfinal)]
    have herror : (Finding.errorIds restored.findings).count i = 0 := by omega
    rw [herror]
    rfl

theorem nodup_ids_firstBatch (hids : (changes.map RecordChange.id).Nodup) :
    ((Plan.ofChanges changes).firstBatch.map RecordChange.id).Nodup :=
  (List.nodup_append.1 ((ids_perm changes).nodup_iff.2 hids)).1

theorem nodup_ids_conditionBatch (hids : (changes.map RecordChange.id).Nodup) :
    ((conditionBatch changes a₁).map RecordChange.id).Nodup := by
  have hconditions := (List.nodup_append.1 ((ids_perm changes).nodup_iff.2 hids)).2.1
  have hlinked := linkConditions_perm (Plan.ofChanges changes).ruleIds (knownIds changes a₁)
    (Plan.ofChanges changes).conditions
  exact (List.nodup_append.1 (hlinked.nodup_iff.2 hconditions)).1

theorem nodup_ids_restoreBatch (hids : (changes.map RecordChange.id).Nodup) :
    ((restoreBatch changes a₁).map RecordChange.id).Nodup := by
  rw [ids_restoreBatch, finals, ids_finalRules]
  exact (hids.sublist (List.filter_sublist.map RecordChange.id)).filter _

theorem result_accounts (hids : (changes.map RecordChange.id).Nodup)
    (h₁ : a₁.AnswersEach ((Plan.ofChanges changes).firstBatch.map RecordChange.id))
    (h₂ : a₂.AnswersEach ((conditionBatch changes a₁).map RecordChange.id))
    (h₃ : a₃.AnswersEach ((restoreBatch changes a₁).map RecordChange.id)) :
    (result changes a₁ a₂ a₃).Accounts (changes.map RecordChange.id) := by
  have hlinked : ((conditionBatch changes a₁).map RecordChange.id ++
      Finding.errorIds (missingRules changes a₁)).Perm
      ((Plan.ofChanges changes).conditions.map RecordChange.id) :=
    linkConditions_perm _ _ _
  have hrules := Deploy.outcome_accounts (nodup_ids_firstBatch hids) h₁
  have hconditions := Deploy.outcome_accounts (nodup_ids_conditionBatch hids) h₂
  have hrestored := Deploy.outcome_accounts (nodup_ids_restoreBatch hids) h₃
  have happlied : (rulesResult changes a₁).appliedIds.Nodup := by
    rw [DeployResult.appliedIds, rulesResult, Deploy.applied_outcome]
    exact Deploy.nodup_ids_matchReports _ _
  have hfinals : ((restoreBatch changes a₁).map RecordChange.id).Nodup :=
    nodup_ids_restoreBatch hids
  rw [ids_restoreBatch] at hrestored hfinals
  have hmerged := mergeRules_perm happlied hfinals hrestored
  rw [DeployResult.Accounts, accounts_iff]
  intro i
  have hi₁ := accounts_iff.1 hrules i
  have hi₂ := accounts_iff.1 hconditions i
  have hi₃ := List.perm_iff_count.1 hmerged i
  have hi₄ := List.perm_iff_count.1 hlinked i
  have hi₅ := List.perm_iff_count.1 (ids_perm changes) i
  simp only [result, rulesResult, DeployResult.appliedIds, List.map_append, List.count_append,
    Finding.errorIds_append] at *
  omega

end

variable {σ : Type} {client : Client σ}

theorem deploy_accounts (hclient : client.AnswersEach) (resolver : Resolver)
    {changes : List RecordChange} (hids : (changes.map RecordChange.id).Nodup) (s : Session σ) :
    (deploy client resolver changes s).1.Accounts (changes.map RecordChange.id) := by
  obtain ⟨x₁, x₂, x₃, s', hcalls, hsent₁, hsent₂, hsent₃, hrun⟩ :=
    deploy_run changes client resolver s
  rw [hrun]
  apply result_accounts hids
  · apply hclient.answer hcalls (by simp) _ (nodup_ids_firstBatch hids)
    rw [hsent₁, RecordChange.ids_resolveChange]
  · apply hclient.answer hcalls (by simp) _ (nodup_ids_conditionBatch hids)
    rw [hsent₂, RecordChange.ids_resolveChange]
  · apply hclient.answer hcalls (by simp) _ (nodup_ids_restoreBatch hids)
    rw [hsent₃, RecordChange.ids_resolveChange]

end Approval

end ElementSync
