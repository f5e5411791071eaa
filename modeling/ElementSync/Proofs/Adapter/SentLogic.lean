import ElementSync.Proofs.Adapter.Prepared
import ElementSync.Proofs.Reference.Rendering

/-!
# Condition logic as it is sent

The logic of a rule is rendered twice. The filters write the indices of the conditions, if all of
them have one, but only into the state after the change. What they leave is rendered with the
identifiers of the conditions when the record is resolved, or goes for want of one.
-/

namespace ElementSync

open ConditionLogic

/-- Packing writes the positions, or leaves the template. -/
theorem ConditionLogic.get?_packRule {c : LookupContext} {i : Instance Element} {k : RuleKind}
    {t : Template Element} (hkind : RuleKind.of? i = some k)
    (ht : i.get? k.logicField = some (.template t)) :
    (packRule c i).get? k.logicField =
      some (((t.textWith fun r => (currentIndex c k r).map toString)).elim (.template t) .text) := by
  rw [← toOption_pack]
  have hpacked : packed? k.logicField (currentIndex c k) i =
      (pack (currentIndex c k) t).toOption.map (t, ·) := by
    rw [packed?, template?, ht]
    cases hpack : (pack (currentIndex c k) t).toOption <;> simp [Value.template?, hpack]
  simp only [packRule, hkind, packInstance, hpacked]
  cases (pack (currentIndex c k) t).toOption with
  | none => exact ht
  | some s => exact i.get?_set_self k.logicField (.text s)

theorem LookupContext.isSome_member?_forRecords (groupId : String) (records : List RecordChange)
    (i : ElementId) :
    ((forRecords groupId records).member? i).isSome =
      records.any fun c => c.after?.any (·.id = i) := by
  have hmembers : (forRecords groupId records).members =
      (records.filterMap Change.after?).map Element.inst := by
    have hafter : ∀ c : RecordChange, c.toChange.after? = c.after?.map Element.inst := by
      intro c
      cases c <;> rfl
    rw [forRecords, forGroup, List.filterMap_map, List.map_filterMap]
    exact List.filterMap_congr fun c _ => hafter c
  rw [member?, hmembers, Bool.eq_iff_iff]
  simp only [List.find?_isSome, List.mem_reverse, List.mem_map, List.mem_filterMap,
    List.any_eq_true, Option.any_eq_true]
  constructor
  · rintro ⟨e, ⟨j, ⟨c, hc, hj⟩, rfl⟩, hid⟩
    exact ⟨c, hc, j, hj, hid⟩
  · rintro ⟨c, hc, j, hj, hid⟩
    exact ⟨.inst j, ⟨j, ⟨c, hc, hj⟩, rfl⟩, hid⟩

namespace Adapter
variable {σ : Type} (a : Adapter) (g : ChangeGroup)

def indexText? (k : RuleKind) (t : Template Element) : Option String :=
  t.textWith fun r =>
    (currentIndex (contextOf a.source (a.unblocked g).changes) k r).map toString

/-- The identifier that is known of an element. What the group itself adds or modifies has none
yet, and in the group of all metadata nothing has. -/
def identifier? (r : Reference Element) : Option Scalar :=
  if g.id = metadataGroup ∨ (a.prepared g).records.any fun c => c.after?.any (·.id = r.target) then
    none
  else ((r.handle.or (a.source r.target)).bind Strategy.default.serialize).bind Value.scalar?

def identifierText? (t : Template Element) : Option String :=
  t.textWith fun r => (a.identifier? g r).map Scalar.render

theorem text?_resolve (field parentType : String) (r : Reference Element) :
    ((a.resolver g.id (a.prepared g).records).resolve field parentType r).text? =
      (a.identifier? g r).map Scalar.render := by
  let c := (a.resolver g.id (a.prepared g).records).context
  have hvalue : (c.resolveWith .default r).value? =
      if g.id = metadataGroup ∨
        (a.prepared g).records.any fun c => c.after?.any (·.id = r.target) then none
      else (r.handle.or (a.source r.target)).bind Strategy.default.serialize := by
    rw [← LookupContext.isSome_member?_forRecords g.id]
    exact c.value?_resolveWith_eq rfl r
  change ((c.resolveWith .default r).value?.bind Value.scalar?).map Scalar.render = _
  rw [hvalue, identifier?]
  split <;> rfl

/-- A template that is not packed goes out with identifiers, or not at all. -/
theorem get?_resolveInstance_template {i : Instance Element} {key : String}
    {t : Template Element} (hkeys : (Assoc.keys i.value).Nodup)
    (ht : i.get? key = some (.template t)) :
    ((a.resolver g.id (a.prepared g).records).resolveInstance i).get? key =
      (a.identifierText? g t).map .text := by
  have hsends := Resolver.sendsIdentifiers_forRecords g.id (a.prepared g).records a.source
  refine (hsends.get?_resolveInstance_of_template hkeys ht).trans ?_
  exact congrArg (fun f => (t.textWith f).map Value.text)
    (funext (a.text?_resolve g (Path.fieldName [key]) i.typeName))

/-- The logic of a rule that is added or modified goes out with indices, else with identifiers. -/
theorem get?_resolveInstance_packRule {i : Instance Element} {k : RuleKind}
    {t : Template Element} (hkind : RuleKind.of? i = some k)
    (hkeys : (Assoc.keys i.value).Nodup) (ht : i.get? k.logicField = some (.template t))
    {es : Values Element} (hes : ∀ key ∈ Assoc.keys es, key ∉ logicFields) :
    ((a.resolver g.id (a.prepared g).records).resolveInstance
      ((packRule (contextOf a.source (a.unblocked g).changes) i).write es)).get? k.logicField =
        ((a.indexText? g k t).or (a.identifierText? g t)).map .text := by
  let c := contextOf a.source (a.unblocked g).changes
  have hlogic : k.logicField ∉ Assoc.keys es := fun hmem =>
    hes _ hmem (List.mem_map_of_mem (RuleKind.of?_eq_some hkind).1)
  have hwritten : ((packRule c i).write es).get? k.logicField =
      some ((a.indexText? g k t).elim (.template t) .text) := by
    rw [Instance.get?_write_of_notMem hlogic, get?_packRule hkind ht]
    rfl
  cases htext : a.indexText? g k t with
  | none =>
    have hkeys' : (Assoc.keys (packRule c i).value).Nodup :=
      (packsInto_packRule c i).keys ▸ hkeys
    rw [htext] at hwritten
    rw [Option.none_or]
    exact a.get?_resolveInstance_template g (Instance.nodup_keys_write hkeys' es) hwritten
  | some s =>
    rw [htext] at hwritten
    exact Resolver.get?_resolveInstance_of_scalar _ hwritten

section
variable (maxDescribes : Nat) (templates : SavedByType) (labels : List (Change Element))
  (client : Client σ) (s : Session σ)

/-- A rule that is sent with a template in its logic field goes out with the current indices of its
conditions. When one of them has none, it goes out with their identifiers, or without logic. So
identifiers are sent exactly if some condition has no index and all of them have identifiers. -/
theorem deploy_sends_logic :
    ∃ xs, client.Exchanges s xs
        ((a.withSaved maxDescribes templates labels).deploy client g s).2 ∧
      ∀ x ∈ xs, ∀ c ∈ x.sent, a.IsLabelContainer g c ∨
        ∃ d : RecordChange, d.toChange ∈ (a.unblocked g).changes ∧ c.id = d.id ∧
          ∀ i k t, d.after? = some i → RuleKind.of? i = some k →
            (Assoc.keys i.value).Nodup → i.get? k.logicField = some (.template t) →
            ∃ j, c.after? = some j ∧
              j.get? k.logicField =
                ((a.indexText? g k t).or (a.identifierText? g t)).map .text ∧
              ((j.get? k.logicField = none ∨
                  ∃ u, a.indexText? g k t = some u ∧ j.get? k.logicField = some (.text u)) ↔
                (a.indexText? g k t).isSome ∨ a.identifierText? g t = none) := by
  obtain ⟨xs, hcalls, hrecords⟩ :=
    a.deploy_exchanges maxDescribes templates labels client g s
  refine ⟨xs, hcalls, ?_⟩
  intro x hx c hc
  refine (hrecords x hx c hc).imp_right ?_
  rintro ⟨d, hd, hid, e, hgoes, -, rfl⟩
  refine ⟨d, hd, hid, ?_⟩
  intro i k t hi hkind hkeys ht
  have hpacked : (RecordChange.mapAfter
      (packRule (contextOf a.source (a.unblocked g).changes)) d).after? =
        some (packRule (contextOf a.source (a.unblocked g).changes) i) := by
    cases d <;> cases hi <;> rfl
  obtain ⟨es, hes, hafter⟩ := hgoes.after _ hpacked
  have hsent := a.get?_resolveInstance_packRule g hkind hkeys ht hes
  refine ⟨_, ?_, hsent, ?_⟩
  · rw [Resolver.after?_resolveChange, hafter, Option.map_some]
  · rw [hsent]
    cases a.indexText? g k t <;> cases a.identifierText? g t <;> simp

end

def logicOf (condition : Instance Element) : Template Element :=
  ⟨[.reference (.ofElement (.inst condition))]⟩

def unindexedCondition : Instance Element :=
  ((Filter.tierCondition "Tier_3" (.int 3)).erase "sbaa__Index__c").set idField
    (.text "a0C000000000003")

def tierUnindexed : ChangeGroup where
  id := "rules"
  changes := [.modification
    (.inst (Filter.tierRule.set "sbaa__AdvancedCondition__c" (.text "3")))
    (.inst (Filter.tierRule.set "sbaa__AdvancedCondition__c"
      (.template (logicOf unindexedCondition))))]

theorem deploy_sends_logic_tier :
    ∃ xs, (InMemory.client {}).Exchanges { state := 0 } xs
        ((ofProfile {} {}).deploy (InMemory.client {}) tierUnindexed { state := 0 }).2 ∧
      ∀ x ∈ xs, ∀ c ∈ x.sent, ∃ j, c.after? = some j ∧
        j.get? "sbaa__AdvancedCondition__c" = some (.text "a0C000000000003") := by
  let a := ofProfile {} {}
  let k := RuleKind.all.getLast (List.cons_ne_nil _ _)
  obtain ⟨xs, hcalls, hsent⟩ := a.deploy_sends_logic tierUnindexed
    ({} : Config).client.maxDescribes [] [] (InMemory.client {}) { state := 0 }
  refine ⟨xs, hcalls, ?_⟩
  intro x hx c hc
  have hlacks : Labels.Lacks Labels.labelType (a.unblocked tierUnindexed).changes := by
    unfold Labels.Lacks
    decide +kernel
  obtain ⟨d, hd, -, hlogic⟩ := (hsent x hx c hc).resolve_left fun h => h.1 hlacks
  have hchange := List.mem_singleton.1 (a.unblocked_subset hd)
  let before := Filter.tierRule.set "sbaa__AdvancedCondition__c" (.text "3")
  let after := Filter.tierRule.set "sbaa__AdvancedCondition__c"
    (.template (logicOf unindexedCondition))
  obtain rfl : d = .modification before after := RecordChange.toChange_injective hchange
  obtain ⟨j, hj, hget, -⟩ := hlogic after k _ rfl rfl (by decide) rfl
  have hindex : a.indexText? tierUnindexed k (logicOf unindexedCondition) = none := by
    decide +kernel
  have hidentifier : a.identifierText? tierUnindexed (logicOf unindexedCondition) =
      some "a0C000000000003" := by
    decide +kernel
  rw [hindex, hidentifier] at hget
  exact ⟨j, hj, hget⟩

/-- The identifier is sent as the logic. -/
theorem deploy_sends_identifier_tier :
    let a := ofProfile {} {}
    let run := a.deploy (InMemory.client {}) tierUnindexed { state := 0 }
    (∀ k ∈ RuleKind.all, a.indexText? tierUnindexed k (logicOf unindexedCondition) = none) ∧
      run.2.trace.batches.map (·.map fun c =>
        c.after?.bind (·.text? "sbaa__AdvancedCondition__c")) = [[some "a0C000000000003"]] := by
  decide +kernel

section
variable (maxDescribes : Nat) (templates : SavedByType) (labels : List (Change Element))
  (client : Client σ) (s : Session σ)

/-- Outside the group of approval rules, a modification of a rule goes out with identifiers in the
logic before it and, if all conditions have one, with indices in the logic after it. The two are the
same text only if the identifiers spell the indices. -/
theorem deploy_sends_states (hgroup : g.id ≠ ChangeGroup.approval) :
    ∃ xs, client.Exchanges s xs
        ((a.withSaved maxDescribes templates labels).deploy client g s).2 ∧
      ∀ x ∈ xs, ∀ c ∈ x.sent, a.IsLabelContainer g c ∨
        ∃ d : RecordChange, d.toChange ∈ (a.unblocked g).changes ∧ c.id = d.id ∧
          ∀ b i k t u, d = .modification b i → RuleKind.of? i = some k →
            (Assoc.keys b.value).Nodup → (Assoc.keys i.value).Nodup →
            b.get? k.logicField = some (.template t) →
            i.get? k.logicField = some (.template u) →
            (∀ r ∈ u.references,
              (currentIndex (contextOf a.source (a.unblocked g).changes) k r).isSome) →
            ∃ b' i' w, c = .modification b' i' ∧ a.indexText? g k u = some w ∧
              i'.get? k.logicField = some (.text w) ∧
              b'.get? k.logicField = (a.identifierText? g t).map .text ∧
              (b'.get? k.logicField = i'.get? k.logicField ↔ a.identifierText? g t = some w) := by
  obtain ⟨xs, hcalls, hrecords⟩ :=
    a.deploy_exchanges maxDescribes templates labels client g s
  refine ⟨xs, hcalls, ?_⟩
  intro x hx c hc
  refine (hrecords x hx c hc).imp_right ?_
  rintro ⟨d, hd, hid, e, -, hplain, rfl⟩
  obtain rfl := hplain hgroup
  refine ⟨d, hd, hid, ?_⟩
  rintro b i k t u rfl hkind hkeys hkeys' ht hu hindices
  have hsome : (a.indexText? g k u).isSome := by
    rw [indexText?, Template.isSome_textWith_iff]
    exact fun r hr => by simpa using hindices r hr
  obtain ⟨w, hw⟩ := Option.isSome_iff_exists.1 hsome
  have hbefore := a.get?_resolveInstance_template g hkeys ht
  have hnone : ∀ key ∈ Assoc.keys ([] : Values Element), key ∉ logicFields := by simp [Assoc.keys]
  have hafter := a.get?_resolveInstance_packRule g hkind hkeys' hu hnone
  rw [hw, Option.some_or, Option.map_some, Instance.write_nil] at hafter
  refine ⟨_, _, w, rfl, hw, hafter, hbefore, ?_⟩
  rw [hbefore, hafter]
  cases a.identifierText? g t <;> simp [Value.text]

end

def indexedCondition : Instance Element :=
  (Filter.tierCondition "Tier_1" (.int 1)).set idField (.text "a0C000000000001")

def tierNamed (name : String) : Instance Element where
  name := "Tier"
  type := Approval.recordType Approval.ruleType
  value := [("Name", .text name),
    ("sbaa__AdvancedCondition__c", .template (logicOf indexedCondition))]

def tierRenamed : ChangeGroup where
  id := "rules"
  changes := [.modification (.inst (tierNamed "Tier")) (.inst (tierNamed "Renamed"))]

theorem deploy_sends_states_tier :
    ∃ xs, (InMemory.client {}).Exchanges { state := 0 } xs
        ((ofProfile {} {}).deploy (InMemory.client {}) tierRenamed { state := 0 }).2 ∧
      ∀ x ∈ xs, ∀ c ∈ x.sent, ∃ b' i', c = .modification b' i' ∧
        b'.get? "sbaa__AdvancedCondition__c" = some (.text "a0C000000000001") ∧
        i'.get? "sbaa__AdvancedCondition__c" = some (.text "1") := by
  let a := ofProfile {} {}
  let k := RuleKind.all.getLast (List.cons_ne_nil _ _)
  obtain ⟨xs, hcalls, hsent⟩ := a.deploy_sends_states tierRenamed
    ({} : Config).client.maxDescribes [] [] (InMemory.client {}) { state := 0 } (by decide)
  refine ⟨xs, hcalls, ?_⟩
  intro x hx c hc
  have hlacks : Labels.Lacks Labels.labelType (a.unblocked tierRenamed).changes := by
    unfold Labels.Lacks
    decide +kernel
  obtain ⟨d, hd, -, hstates⟩ := (hsent x hx c hc).resolve_left fun h => h.1 hlacks
  have hchange := List.mem_singleton.1 (a.unblocked_subset hd)
  obtain rfl : d = .modification (tierNamed "Tier") (tierNamed "Renamed") :=
    RecordChange.toChange_injective hchange
  have hindices : ∀ r ∈ (logicOf indexedCondition).references,
      (currentIndex (contextOf a.source (a.unblocked tierRenamed).changes) k r).isSome := by
    decide +kernel
  obtain ⟨b', i', w, hc, hw, hafter, hbefore, -⟩ :=
    hstates _ _ k _ _ rfl rfl (by decide) (by decide) rfl rfl hindices
  have hindex : a.indexText? tierRenamed k (logicOf indexedCondition) = some "1" := by
    decide +kernel
  have hidentifier : a.identifierText? tierRenamed (logicOf indexedCondition) =
      some "a0C000000000001" := by
    decide +kernel
  obtain rfl := Option.some.inj (hw.symm.trans hindex)
  rw [hidentifier] at hbefore
  exact ⟨b', i', hc, hbefore, hafter⟩

/-- The logic is sent as if it had changed. -/
theorem deploy_sends_changed_tier :
    let a := ofProfile {} {}
    let run := a.deploy (InMemory.client {}) tierRenamed { state := 0 }
    let context := contextOf a.source (a.unblocked tierRenamed).changes
    let k := RuleKind.all.getLast (List.cons_ne_nil _ _)
    (∀ r ∈ (logicOf indexedCondition).references, (currentIndex context k r).isSome) ∧
      run.2.trace.batches.map (·.map fun c =>
        (c.before?.bind (·.text? "sbaa__AdvancedCondition__c"),
          c.after?.bind (·.text? "sbaa__AdvancedCondition__c"))) =
        [[(some "a0C000000000001", some "1")]] := by
  decide +kernel

end Adapter

end ElementSync
