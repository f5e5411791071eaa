import ElementSync.Proofs.Deploy.ApprovalRun
import ElementSync.Proofs.Reference.Identifiers
import Mathlib.Data.List.Basic

/-!
# The three calls of an approval deploy

The first call holds the rules, with provisional logic where their own needs conditions. The
second holds the conditions, linked by the identifiers that the first call gave to their rules.
The third puts the custom logic back on the rules that were created. This is so whatever the
client answers; the answer to the first call alone decides what the other two hold.
-/

namespace ElementSync

namespace BatchAnswer

def identifier? (a : BatchAnswer) (i : ElementId) : Option (Value Element) :=
  (a.applied.find? (·.id = i)).bind (·.data.get? idField)

def ReportsScalarIds (a : BatchAnswer) : Prop :=
  ∀ report ∈ a.applied, ∀ v, report.data.get? idField = some v → ∃ s, v = .scalar s

end BatchAnswer

def Instance.TextOrAbsent (i : Instance Element) (key : String) : Prop :=
  i.get? key = none ∨ ∃ t, i.get? key = some (.text t)

def Client.reporting (report : RecordChange → RecordChange) : Client Unit where
  listTypes := return .ok []
  describe name := return .error (.unknownType name)
  deploy records := return .done { applied := records.map report }
  query _ := return {}

namespace Approval

def isCustomRule (c : RecordChange) : Bool := isRule c && hasCustomLogic c.data

def isPlainRule (c : RecordChange) : Bool := isRule c && !hasCustomLogic c.data

def withAllConditions (c : RecordChange) : RecordChange :=
  c.map (·.set conditionsMetField (.text allConditions))

def ruleOf? (changes : List RecordChange) (c : RecordChange) : Option ElementId := do
  let r ← (← c.data.get? ruleField).reference?
  if r.target ∈ (changes.filter isRule).map RecordChange.id then some r.target else none

/-- A condition with the identifier of its rule, if the first call gave it one. A condition
without a rule of the list goes out as it is. -/
def outgoing? (changes : List RecordChange) (a : BatchAnswer) (c : RecordChange) :
    Option RecordChange :=
  match ruleOf? changes c with
  | none => some c
  | some i => (a.identifier? i).map fun v => c.mapData (·.set ruleField v)

/-- The update that leaves a rule as it was meant, if the first call gave it an identifier. -/
def restoring? (a : BatchAnswer) (c : RecordChange) : Option RecordChange :=
  (a.identifier? c.id).map fun v =>
    .modification (c.data.set idField v) (c.data.set idField v)

structure CallsInOrder (resolver : Resolver) (changes : List RecordChange)
    (x₁ x₂ x₃ : Exchange) : Prop where
  rules : x₁.sent = (changes.filter isPlainRule ++
    (changes.filter isCustomRule).map withAllConditions).map resolver.resolveChange
  /-- Every rule, each as often as the list holds it. -/
  every_rule : (x₁.sent.map RecordChange.id).Perm ((changes.filter isRule).map RecordChange.id)
  no_custom_logic : ∀ c ∈ x₁.sent,
    isRule c ∧ c.data.text? conditionsMetField ≠ some customLogic
  conditions : x₂.sent = ((changes.filter (!isRule ·)).filterMap
    (outgoing? changes x₁.answer)).map resolver.resolveChange
  linked : ∀ c i v, ruleOf? changes c = some i → x₁.answer.identifier? i = some v →
    ∃ d, outgoing? changes x₁.answer c = some d ∧
      (resolver.resolveChange d).data.get? ruleField = some v
  restored : x₃.sent = ((changes.filter isCustomRule).filterMap
    (restoring? x₁.answer)).map resolver.resolveChange
  custom_logic : ∀ c ∈ x₃.sent, c.data.text? conditionsMetField = some customLogic ∧
    c.data.get? idField = x₁.answer.identifier? c.id

section
variable {changes : List RecordChange} {a : BatchAnswer}

theorem identifierOf?_of_scalar (ha : a.ReportsScalarIds) {report : RecordChange}
    (h : report ∈ a.applied) : Deploy.identifierOf? report = report.data.get? idField := by
  unfold Deploy.identifierOf?
  cases hv : report.data.get? idField with
  | none => rfl
  | some v =>
    obtain ⟨s, rfl⟩ := ha report h v hv
    rfl

theorem exists_scalar_of_identifier? (ha : a.ReportsScalarIds) {i : ElementId}
    {v : Value Element} (h : a.identifier? i = some v) : ∃ s, v = .scalar s := by
  obtain ⟨report, hreport, hv⟩ := Option.bind_eq_some_iff.1 h
  exact ha report (List.mem_of_find?_eq_some hreport) v hv

section
variable (ha : a.ReportsScalarIds) (hid : ∀ c ∈ changes, isRule c → c.data.get? idField = none)
include ha hid

/-- A rule that brings no identifier along has the one that the first call reports. -/
theorem lookup_knownIds_of_rule {i : ElementId}
    (hi : i ∈ (changes.filter isRule).map RecordChange.id) :
    (knownIds changes a).lookup i = a.identifier? i := by
  have hmem : i ∈ (Plan.ofChanges changes).firstBatch.reverse.map RecordChange.id := by
    rw [List.map_reverse, List.mem_reverse, map_id_firstBatch, mem_ruleIds]
    exact hi
  obtain ⟨c, hc⟩ := Option.isSome_iff_exists.1 (RecordChange.isSome_find?_id.2 hmem)
  have hown : c.data.get? idField = none := by
    have hc := List.mem_reverse.1 (List.mem_of_find?_eq_some hc)
    obtain ⟨d, hd, hrule, rfl⟩ := exists_of_mem_firstBatch changes hc
    rw [get?_idField_provisional]
    exact hid d hd hrule
  rw [lookup_knownIds, hc, Option.bind_some, BatchAnswer.identifier?]
  cases hreport : a.applied.find? (·.id = i) with
  | none => rfl
  | some report =>
    rw [Option.bind_some, Option.bind_some, hown, Option.or_none]
    exact identifierOf?_of_scalar ha (List.mem_of_find?_eq_some hreport)

theorem getLeft?_linkCondition (c : RecordChange) :
    (linkCondition (Plan.ofChanges changes).ruleIds (knownIds changes a) c).getLeft? =
      outgoing? changes a c := by
  have hrule : ruleOf? changes c = ((c.data.get? ruleField).bind Value.reference?).bind fun r =>
      if r.target ∈ (changes.filter isRule).map RecordChange.id then some r.target else none := by
    rw [ruleOf?, Option.bind_assoc]
    rfl
  unfold linkCondition outgoing?
  rw [hrule]
  cases (c.data.get? ruleField).bind Value.reference? with
  | none => rfl
  | some r =>
    by_cases hi : r.target ∈ (changes.filter isRule).map RecordChange.id
    · simp only [Option.bind_some, if_pos hi, if_pos ((mem_ruleIds changes).2 hi),
        lookup_knownIds_of_rule ha hid hi]
      cases a.identifier? r.target <;> rfl
    · simp only [Option.bind_some, if_neg hi, if_neg (mt (mem_ruleIds changes).1 hi)]
      rfl

theorem conditionBatch_eq :
    conditionBatch changes a = (changes.filter (!isRule ·)).filterMap (outgoing? changes a) := by
  rw [conditionBatch, linkedConditions, List.filterMap_map]
  apply List.filterMap_congr
  intro c _
  exact getLeft?_linkCondition ha hid c

theorem restoreBatch_eq :
    restoreBatch changes a = (changes.filter isCustomRule).filterMap (restoring? a) := by
  rw [restoreBatch, finals, finalRules, List.map_filterMap]
  apply List.filterMap_congr
  intro c hc
  obtain ⟨hmem, hcustom⟩ := List.mem_filter.1 hc
  have hi : c.id ∈ (changes.filter isRule).map RecordChange.id :=
    List.mem_map_of_mem (List.mem_filter.2 ⟨hmem, (Bool.and_eq_true_iff.1 hcustom).1⟩)
  rw [lookup_knownIds_of_rule ha hid hi, Option.map_map]
  rfl

end

theorem text?_provisional_ne (c : RecordChange) :
    (provisional c).data.text? conditionsMetField ≠ some customLogic := by
  unfold provisional
  split
  case isTrue =>
    have hne : allConditions ≠ customLogic := by decide
    simpa [Instance.text?, Value.text, Value.text?] using hne
  case isFalse h => simpa [hasCustomLogic] using h

/-- Logic that is text, or not there at all, goes out as it is. -/
theorem text?_resolveInstance (resolver : Resolver) {i : Instance Element} {key : String}
    (h : i.TextOrAbsent key) :
    (resolver.resolveInstance i).text? key = i.text? key := by
  rcases h with hnone | ⟨t, htext⟩
  · rw [Instance.text?, resolver.get?_resolveInstance_of_none hnone, Instance.text?, hnone]
  · rw [Instance.text?, resolver.get?_resolveInstance_of_scalar htext, Instance.text?, htext]
    rfl

theorem textOrAbsent_provisional {c : RecordChange}
    (h : c.data.TextOrAbsent conditionsMetField) :
    (provisional c).data.TextOrAbsent conditionsMetField := by
  unfold provisional
  split
  · exact Or.inr ⟨allConditions, by simp⟩
  · exact h

theorem isRule_provisional (c : RecordChange) : isRule (provisional c) = isRule c := by
  unfold provisional
  split
  · cases c <;> rfl
  · rfl

theorem isRule_resolveChange (resolver : Resolver) (c : RecordChange) :
    isRule (resolver.resolveChange c) = isRule c := by
  cases c <;> rfl

theorem get?_of_hasCustomLogic {i : Instance Element} (h : hasCustomLogic i) :
    i.get? conditionsMetField = some (.text customLogic) := by
  obtain ⟨v, hv, htext⟩ := Option.bind_eq_some_iff.1 (of_decide_eq_true h)
  rw [hv, Value.eq_text_of_text? htext]

/-- A rule keeps its logic when it is given an identifier. -/
theorem get?_conditionsMet_set_idField (i : Instance Element) (v : Value Element) :
    (i.set idField v).get? conditionsMetField = i.get? conditionsMetField := by
  have hne : conditionsMetField ≠ idField := by decide
  rw [Instance.get?_set, if_neg hne]

end

variable {σ : Type}

/-- A deploy makes exactly three calls, whatever the client answers, and they hold the rules,
the conditions of created rules and the created rules with custom logic. -/
theorem deploy_calls (client : Client σ) (resolver : Resolver) (changes : List RecordChange)
    (s : Session σ)
    (hscalar : ∀ records state, (client.deploy records state).1.ReportsScalarIds)
    (hlogic : ∀ c ∈ changes, isRule c → c.data.TextOrAbsent conditionsMetField)
    (hid : ∀ c ∈ changes, isRule c → c.data.get? idField = none) :
    ∃ x₁ x₂ x₃ : Exchange,
      client.Exchanges s [x₁, x₂, x₃] (deploy client resolver changes s).2 ∧
      (deploy client resolver changes s).2.trace.batches =
        s.trace.batches ++ [x₁.sent, x₂.sent, x₃.sent] ∧
      CallsInOrder resolver changes x₁ x₂ x₃ := by
  obtain ⟨x₁, x₂, x₃, s', hcalls, hsent₁, hsent₂, hsent₃, hrun⟩ :=
    deploy_run changes client resolver s
  have ha : x₁.answer.ReportsScalarIds :=
    hcalls.forall_answer (P := fun _ a => a.ReportsScalarIds) hscalar x₁ (by simp)
  rw [hrun]
  refine ⟨x₁, x₂, x₃, hcalls, hcalls.batches_eq, ?_⟩
  constructor
  case rules =>
    exact hsent₁
  case every_rule =>
    rw [hsent₁, RecordChange.ids_resolveChange, map_id_firstBatch]
    exact (rules_perm changes).map RecordChange.id
  case no_custom_logic =>
    intro c hc
    rw [hsent₁] at hc
    obtain ⟨d, hd, rfl⟩ := List.mem_map.1 hc
    obtain ⟨e, he, hrule, rfl⟩ := exists_of_mem_firstBatch changes hd
    have htext := textOrAbsent_provisional (hlogic e he hrule)
    refine ⟨?_, ?_⟩
    · rwa [isRule_resolveChange, isRule_provisional]
    · rw [resolver.data_resolveChange, text?_resolveInstance resolver htext]
      exact text?_provisional_ne e
  case conditions =>
    rw [hsent₂, conditionBatch_eq ha hid]
  case linked =>
    intro c i v hrule hv
    obtain ⟨t, rfl⟩ := exists_scalar_of_identifier? ha hv
    have hout : outgoing? changes x₁.answer c = some (c.mapData (·.set ruleField (.scalar t))) := by
      simp only [outgoing?, hrule, hv, Option.map_some]
    refine ⟨_, hout, ?_⟩
    rw [resolver.data_resolveChange, Change.data_mapData]
    exact resolver.get?_resolveInstance_of_scalar (Instance.get?_set_self _ _ _)
  case restored =>
    rw [hsent₃, restoreBatch_eq ha hid]
  case custom_logic =>
    intro c hc
    rw [hsent₃, restoreBatch_eq ha hid] at hc
    obtain ⟨d, hd, rfl⟩ := List.mem_map.1 hc
    obtain ⟨e, he, hrestore⟩ := List.mem_filterMap.1 hd
    obtain ⟨v, hv, rfl⟩ := Option.map_eq_some_iff.1 hrestore
    obtain ⟨t, rfl⟩ := exists_scalar_of_identifier? ha hv
    have hcustom : hasCustomLogic e.data :=
      (Bool.and_eq_true_iff.1 (List.mem_filter.1 he).2).2
    have hmeant : (e.data.set idField (.scalar t)).get? conditionsMetField =
        some (.text customLogic) := by
      rw [get?_conditionsMet_set_idField, get?_of_hasCustomLogic hcustom]
    rw [RecordChange.id_resolveChange, resolver.data_resolveChange]
    refine ⟨?_, ?_⟩
    · rw [Change.data, Instance.text?, resolver.get?_resolveInstance_of_scalar hmeant]
      rfl
    · rw [Change.data, resolver.get?_resolveInstance_of_scalar (Instance.get?_set_self _ _ _)]
      exact hv.symm

def recordType (typeName : String) : ObjectType Element where
  id := .type "salesforce" typeName
  annotations := [(AnnotationKey.metadataType, .text customObject)]

def discountRule : RecordChange :=
  .addition
    { name := "Discount"
      type := recordType ruleType
      value := [(conditionsMetField, .text customLogic)] }

def discountCondition : RecordChange :=
  .addition
    { name := "Discount_1"
      type := recordType conditionType
      value := [(ruleField, .reference ⟨discountRule.id, none⟩)] }

theorem deploy_calls_discount :
    let naming := Client.reporting (·.mapData (·.set idField (.text "a01")))
    let resolver : Resolver := { context := {} }
    let changes := [discountRule, discountCondition]
    ∃ x₁ x₂ x₃ : Exchange,
      naming.Exchanges { state := () } [x₁, x₂, x₃]
        (deploy naming resolver changes { state := () }).2 ∧
      (deploy naming resolver changes { state := () }).2.trace.batches =
        [x₁.sent, x₂.sent, x₃.sent] ∧
      CallsInOrder resolver changes x₁ x₂ x₃ := by
  intro naming resolver changes
  have hscalar : ∀ records state, (naming.deploy records state).1.ReportsScalarIds := by
    intro records state report hreport v hv
    obtain ⟨c, -, rfl⟩ := List.mem_map.1 hreport
    rw [Change.data_mapData, Instance.get?_set_self] at hv
    exact ⟨.text "a01", (Option.some.inj hv).symm⟩
  have hlogic : ∀ c ∈ changes, isRule c → c.data.TextOrAbsent conditionsMetField := by
    intro c hc hrule
    rcases List.mem_pair.1 hc with rfl | rfl
    · exact Or.inr ⟨customLogic, rfl⟩
    · exact absurd hrule (by decide)
  have hid : ∀ c ∈ changes, isRule c → c.data.get? idField = none := by
    intro c hc _
    rcases List.mem_pair.1 hc with rfl | rfl
    · rfl
    · rfl
  exact deploy_calls naming resolver changes { state := () } hscalar hlogic hid

end Approval

end ElementSync
