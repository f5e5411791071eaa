import ElementSync.Proofs.Adapter.Approval

/-!
# Which conditions are sent

A condition whose rule is in the deploy waits for the identifier of the rule and goes out with it.
The deploy knows only the rules that validation lets through: a condition whose rule was held back
goes out as if its rule were from elsewhere.
-/

namespace ElementSync

def RecordChange.RefersToRule (condition rule : RecordChange) : Prop :=
  ∃ r : Reference Element,
    condition.data.get? Approval.ruleField = some (.reference r) ∧ r.target = rule.id

namespace Approval
variable {changes : List RecordChange} {a : BatchAnswer} {resolver : Resolver} {c d : RecordChange}

theorem isRule_of_mem_firstBatch (h : c ∈ (Plan.ofChanges changes).firstBatch.map
    resolver.resolveChange) : isRule c := by
  obtain ⟨p, hp, rfl⟩ := List.mem_map.1 h
  obtain ⟨d, -, hrule, rfl⟩ := exists_of_mem_firstBatch changes hp
  rwa [isRule_resolveChange, isRule_provisional]

theorem isRule_of_mem_restoreBatch (h : c ∈ (restoreBatch changes a).map resolver.resolveChange) :
    isRule c := by
  obtain ⟨p, hp, rfl⟩ := List.mem_map.1 h
  obtain ⟨i, hi, rfl⟩ := List.mem_map.1 hp
  obtain ⟨d, hd, hfinal⟩ := List.mem_filterMap.1 hi
  obtain ⟨v, -, rfl⟩ := Option.map_eq_some_iff.1 hfinal
  rw [isRule_resolveChange]
  exact (Bool.and_eq_true_iff.1 (List.mem_filter.1 hd).2).1

theorem mem_appliedIds_of_lookup_knownIds {i : ElementId} {v : Value Element}
    (h : (knownIds changes a).lookup i = some v) : i ∈ a.appliedIds := by
  rw [lookup_knownIds] at h
  obtain ⟨_, _, hfound⟩ := Option.bind_eq_some_iff.1 h
  obtain ⟨report, hreport, _⟩ := Option.bind_eq_some_iff.1 hfound
  exact RecordChange.isSome_find?_id.1 (Option.isSome_iff_exists.2 ⟨report, hreport⟩)

theorem ruleOf?_of_refersToRule {rule : RecordChange} (h : d.RefersToRule rule) :
    ruleOf? changes d =
      if rule.id ∈ (changes.filter isRule).map RecordChange.id then some rule.id else none := by
  obtain ⟨r, hr, htarget⟩ := h
  rw [ruleOf?, hr, ← htarget]
  rfl

theorem link?_of_refersToRule {rule : RecordChange} (h : d.RefersToRule rule)
    (hrule : rule.id ∈ (changes.filter isRule).map RecordChange.id) :
    link? changes a d = (knownIds changes a).lookup rule.id := by
  rw [link?, ruleOf?_of_refersToRule h, if_pos hrule]
  rfl

/-- Packed conditions go out under the same circumstances, linked in the same way. -/
theorem mem_conditionBatch_mapAfter {f : Instance Element → Instance Element}
    (hf : ∀ i : Instance Element, i.PacksInto (f i)) :
    c ∈ conditionBatch (changes.map (RecordChange.mapAfter f)) a ↔ ∃ d ∈ changes, ¬ isRule d ∧
      (ruleOf? changes d = none ∨ (link? changes a d).isSome) ∧
        c = (RecordChange.mapAfter f d).write ((link? changes a d).map (ruleField, ·)).toList := by
  rw [mem_conditionBatch]
  constructor
  · rintro ⟨p, hp, hsent⟩
    obtain ⟨d, hd, rfl⟩ := List.mem_map.1 hp
    rw [isRule_mapAfter hf, ruleOf?_mapAfter hf, link?_mapAfter hf] at hsent
    exact ⟨d, hd, hsent⟩
  · rintro ⟨d, hd, hsent⟩
    refine ⟨RecordChange.mapAfter f d, List.mem_map_of_mem hd, ?_⟩
    rwa [isRule_mapAfter hf, ruleOf?_mapAfter hf, link?_mapAfter hf]

end Approval

namespace Adapter
variable {σ : Type} (a : Adapter) {g : ChangeGroup}

/-- Whether a change is held back depends on its id alone. -/
theorem mem_unblocked_of_id_eq {c d : Change Element} (hc : c ∈ (a.unblocked g).changes)
    (hd : d ∈ g.changes) (hid : c.id = d.id) : d ∈ (a.unblocked g).changes := by
  have hfree := (List.mem_filter.1 hc).2
  refine List.mem_filter.2 ⟨hd, ?_⟩
  rwa [Validation.isBlocked, ← hid]

/-- The rules that a deploy knows are those that validation lets through. -/
theorem mem_ruleIds_unblocked_iff (hgroup : g.IsApproval) {rule : RecordChange}
    (hrule : rule.toChange ∈ g.changes) (his : Approval.isRule rule) :
    rule.id ∈ ((a.unblocked g).records.filter Approval.isRule).map RecordChange.id ↔
      rule.toChange ∈ (a.unblocked g).changes := by
  constructor
  · intro h
    obtain ⟨d, hd, hid⟩ := List.mem_map.1 h
    rw [← RecordChange.id_toChange, ← RecordChange.id_toChange] at hid
    exact a.mem_unblocked_of_id_eq (ChangeGroup.mem_records.1 (List.mem_filter.1 hd).1).1 hrule hid
  · intro h
    exact List.mem_map_of_mem
      (List.mem_filter.2 ⟨(a.isApproval_unblocked hgroup).mem_records_iff.2 h, his⟩)

def sentAs (i : ElementId) (xs : List Exchange) : List RecordChange :=
  xs.flatMap fun x => x.sent.filter (·.id = i)

/-- What is sent under another id than a rule's goes out with the conditions. -/
theorem mem_sentAs_of_isRule {x₁ x₂ x₃ : Exchange} (h₁ : ∀ c ∈ x₁.sent, Approval.isRule c)
    (h₃ : ∀ c ∈ x₃.sent, Approval.isRule c) {i : ElementId}
    (hi : i.typeName ≠ Approval.ruleType) {c : RecordChange} :
    c ∈ sentAs i [x₁, x₂, x₃] ↔ c ∈ x₂.sent ∧ c.id = i := by
  have hrules : ∀ x : Exchange, (∀ d ∈ x.sent, Approval.isRule d) →
      c ∉ x.sent.filter (·.id = i) := by
    intro x hx hc
    obtain ⟨hmem, hid⟩ := List.mem_filter.1 hc
    have hrule := hx c hmem
    rw [Approval.isRule_iff, of_decide_eq_true hid] at hrule
    exact hi hrule
  simp only [sentAs, List.flatMap_cons, List.flatMap_nil, List.append_nil, List.mem_append]
  rw [or_iff_right (hrules x₁ h₁), or_iff_left (hrules x₃ h₃), List.mem_filter, decide_eq_true_iff]

/-- What is sent under the id of a condition is a condition of the second call, packed and
linked. -/
theorem mem_sentAs_iff (client : Client σ) (records : List RecordChange)
    {f : Instance Element → Instance Element} (hf : ∀ i : Instance Element, i.PacksInto (f i))
    (s : Session σ) :
    ∃ xs, client.Exchanges s xs
        (a.send client ChangeGroup.approval (records.map (RecordChange.mapAfter f)) s).2 ∧
      (records ≠ [] → xs ≠ []) ∧
      ∀ i : ElementId, i.typeName ≠ Approval.ruleType → ∀ c,
        c ∈ sentAs i xs ↔ ∃ x ∈ xs.head?, ∃ d ∈ records, d.id = i ∧ ¬ Approval.isRule d ∧
          (Approval.ruleOf? records d = none ∨ (Approval.link? records x.answer d).isSome) ∧
          c = (a.resolver ChangeGroup.approval
              (records.map (RecordChange.mapAfter f))).resolveChange
            ((RecordChange.mapAfter f d).write
              ((Approval.link? records x.answer d).map (Approval.ruleField, ·)).toList) := by
  obtain ⟨xs, hcalls, hsent⟩ := a.send_approval client (records.map (RecordChange.mapAfter f)) s
  have hnonempty : records ≠ [] → xs ≠ [] := by
    intro hne
    rcases hsent with ⟨hempty, -⟩ | ⟨x₁, x₂, x₃, rfl, -⟩
    · exact absurd (List.map_eq_nil_iff.1 hempty) hne
    · exact List.cons_ne_nil _ _
  refine ⟨xs, hcalls, hnonempty, ?_⟩
  intro i hi c
  rcases hsent with ⟨hempty, rfl, -⟩ | ⟨x₁, x₂, x₃, rfl, hsent₁, hsent₂, hsent₃, -⟩
  case inl => simp [sentAs]
  case inr =>
    have hfirst : ∀ c ∈ x₁.sent, Approval.isRule c :=
      fun c hc => Approval.isRule_of_mem_firstBatch (hsent₁ ▸ hc)
    have hthird : ∀ c ∈ x₃.sent, Approval.isRule c :=
      fun c hc => Approval.isRule_of_mem_restoreBatch (hsent₃ ▸ hc)
    rw [mem_sentAs_of_isRule hfirst hthird hi, hsent₂]
    simp only [List.head?_cons, Option.mem_def, Option.some.injEq, exists_eq_left']
    constructor
    · rintro ⟨hmem, hid⟩
      obtain ⟨p, hp, rfl⟩ := List.mem_map.1 hmem
      obtain ⟨d, hd, hcond, hsome, rfl⟩ := (Approval.mem_conditionBatch_mapAfter hf).1 hp
      rw [RecordChange.id_resolveChange, RecordChange.id_write, RecordChange.id_mapAfter hf] at hid
      exact ⟨d, hd, hid, hcond, hsome, rfl⟩
    · rintro ⟨d, hd, hid, hcond, hsome, rfl⟩
      refine ⟨List.mem_map_of_mem
        ((Approval.mem_conditionBatch_mapAfter hf).2 ⟨d, hd, hcond, hsome, rfl⟩), ?_⟩
      rw [RecordChange.id_resolveChange, RecordChange.id_write, RecordChange.id_mapAfter hf, hid]

/-- A condition of an approval group that refers to a rule of the group is sent only with the
identifier that the first call left its rule with, unless validation has held the rule back: then
it is sent whatever happens. -/
theorem deploy_sends_condition_iff (client : Client σ) (g : ChangeGroup) (s : Session σ)
    (hfilters : ∀ f ∈ a.filters, f.isBuiltIn) (hgroup : g.IsApproval) :
    ∃ (a' : Adapter) (o : Outcome) (xs : List Exchange),
      (a.deploy client g s).1 = (a', .ok o) ∧
      client.Exchanges s xs (a.deploy client g s).2 ∧
      ∀ condition rule : RecordChange, condition.toChange ∈ g.changes → rule.toChange ∈ g.changes →
        ¬ Approval.isRule condition → Approval.isRule rule → condition.RefersToRule rule →
        (∀ c ∈ g.changes, c.id = condition.id → c = condition.toChange) →
        ((sentAs condition.id xs ≠ [] ↔ condition.toChange ∈ (a.unblocked g).changes ∧
            (rule.toChange ∈ (a.unblocked g).changes → ∃ x ∈ xs.head?,
              ((Approval.knownIds (a.unblocked g).records x.answer).lookup rule.id).isSome)) ∧
          ∀ c ∈ sentAs condition.id xs, rule.toChange ∈ (a.unblocked g).changes →
            ∃ x ∈ xs.head?, rule.id ∈ x.answer.appliedIds ∧ ∀ t : Scalar,
              (Approval.knownIds (a.unblocked g).records x.answer).lookup rule.id =
                some (.scalar t) →
              c.data.get? Approval.ruleField = some (.scalar t)) := by
  have happroval := a.isApproval_unblocked hgroup
  obtain ⟨f, fs, o, hdeploys⟩ :=
    a.exists_deploys client g s hfilters (happroval.lacks (by decide) (by decide))
  have hdeploy := hdeploys.deploy_eq
  rw [hgroup.id_eq] at hdeploy
  obtain ⟨xs, hcalls, hnonempty, hsent⟩ :=
    a.mem_sentAs_iff client (a.unblocked g).records hdeploys.packs s
  refine ⟨_, o, xs, by rw [hdeploy], by rw [hdeploy]; exact hcalls, ?_⟩
  intro condition rule hcondition hrule hnot his hrefers hunique
  have hid : condition.id.typeName ≠ Approval.ruleType := fun h => hnot (Approval.isRule_iff.2 h)
  have hsame : ∀ d ∈ (a.unblocked g).records, d.id = condition.id → d = condition := by
    intro d hd heq
    rw [← RecordChange.id_toChange] at heq
    exact RecordChange.toChange_injective
      (hunique _ (a.unblocked_subset (ChangeGroup.mem_records.1 hd).1) heq)
  have hmem := a.mem_ruleIds_unblocked_iff hgroup hrule his
  have hruleOf : Approval.ruleOf? (a.unblocked g).records condition = _ :=
    Approval.ruleOf?_of_refersToRule hrefers
  have hlink : ∀ answer, rule.toChange ∈ (a.unblocked g).changes →
      Approval.link? (a.unblocked g).records answer condition =
        (Approval.knownIds (a.unblocked g).records answer).lookup rule.id :=
    fun _ h => Approval.link?_of_refersToRule hrefers (hmem.2 h)
  refine ⟨⟨?_, ?_⟩, ?_⟩
  · intro hne
    obtain ⟨c, hc⟩ := List.exists_mem_of_ne_nil _ hne
    obtain ⟨x, hx, d, hd, heq, -, hsome, -⟩ := (hsent _ hid c).1 hc
    obtain rfl := hsame d hd heq
    refine ⟨happroval.mem_records_iff.1 hd, ?_⟩
    intro hunblocked
    rw [hlink _ hunblocked, hruleOf, if_pos (hmem.2 hunblocked)] at hsome
    exact ⟨x, hx, hsome.resolve_left (by simp)⟩
  · rintro ⟨hunblocked, hknown⟩
    have hd := happroval.mem_records_iff.2 hunblocked
    by_cases hrule' : rule.toChange ∈ (a.unblocked g).changes
    case pos =>
      obtain ⟨x, hx, hsome⟩ := hknown hrule'
      rw [← hlink _ hrule'] at hsome
      exact List.ne_nil_of_mem
        ((hsent _ hid _).2 ⟨x, hx, condition, hd, rfl, hnot, Or.inr hsome, rfl⟩)
    case neg =>
      obtain ⟨x, xs', rfl⟩ := List.exists_cons_of_ne_nil (hnonempty (List.ne_nil_of_mem hd))
      have hforeign : Approval.ruleOf? (a.unblocked g).records condition = none := by
        rw [hruleOf, if_neg (mt hmem.1 hrule')]
      exact List.ne_nil_of_mem
        ((hsent _ hid _).2 ⟨x, rfl, condition, hd, rfl, hnot, Or.inl hforeign, rfl⟩)
  · intro c hc hunblocked
    obtain ⟨x, hx, d, hd, heq, -, hsome, rfl⟩ := (hsent _ hid c).1 hc
    obtain rfl := hsame d hd heq
    rw [hlink _ hunblocked, hruleOf, if_pos (hmem.2 hunblocked)] at hsome
    obtain ⟨v, hv⟩ := Option.isSome_iff_exists.1 (hsome.resolve_left (by simp))
    refine ⟨x, hx, Approval.mem_appliedIds_of_lookup_knownIds hv, ?_⟩
    intro t ht
    rw [hlink _ hunblocked, ht, Resolver.data_resolveChange, RecordChange.data_write]
    exact Resolver.get?_resolveInstance_of_scalar _ (Instance.get?_set_self _ _ _)

theorem deploy_sends_condition_iff_discount :
    ∃ xs, namingClient.Exchanges { state := () } xs
        ((ofProfile {} {}).deploy namingClient discountGroup { state := () }).2 ∧
      (sentAs Approval.discountCondition.id xs ≠ [] ↔
        Approval.discountCondition.toChange ∈ ((ofProfile {} {}).unblocked discountGroup).changes ∧
        (Approval.discountRule.toChange ∈ ((ofProfile {} {}).unblocked discountGroup).changes →
          ∃ x ∈ xs.head?, ((Approval.knownIds ((ofProfile {} {}).unblocked discountGroup).records
            x.answer).lookup Approval.discountRule.id).isSome)) := by
  have hfilters : ∀ f ∈ (ofProfile {} {}).filters, f.isBuiltIn :=
    fun f hf => Filter.isBuiltIn_of_mem_builtIn hf
  obtain ⟨a', o, xs, -, hcalls, hconditions⟩ :=
    (ofProfile {} {}).deploy_sends_condition_iff namingClient discountGroup { state := () }
      hfilters isApproval_discountGroup
  have hunique : ∀ c ∈ discountGroup.changes, c.id = Approval.discountCondition.id →
      c = Approval.discountCondition.toChange := by
    intro c hc hid
    rcases List.mem_pair.1 hc with rfl | rfl
    · exact absurd hid (by decide)
    · rfl
  exact ⟨xs, hcalls, (hconditions Approval.discountCondition Approval.discountRule
    (by simp [discountGroup]) (by simp [discountGroup]) (by decide) (by decide)
    ⟨_, rfl, rfl⟩ hunique).1⟩

def conditionsOnly : Config where
  deploy := { types := [(Approval.conditionType, [.add])] }

/-- With the rule held back the first call is empty, and the condition goes out without it. -/
theorem deploy_sends_orphan_discount :
    Approval.discountCondition.RefersToRule Approval.discountRule ∧
      ((ofProfile conditionsOnly {}).deploy namingClient discountGroup
          { state := () }).2.trace.batches.map
        (·.map fun c => (c.id, (c.data.get? Approval.ruleField).isNone)) =
        [[], [(Approval.discountCondition.id, true)], []] := by
  refine ⟨⟨_, rfl, rfl⟩, ?_⟩
  decide +kernel

end Adapter

end ElementSync
