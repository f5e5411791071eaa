import ElementSync.Proofs.Client.Answers
import ElementSync.Proofs.Deploy.ApprovalCalls

/-!
# What a batch reports

A client may repeat its reports, reorder them, leave some out and report changes that it was never
sent. The result of a batch holds none of this: it has every change that is reported once, at the
place of the first report about it, and as it was given, but for the identifier.
-/

namespace ElementSync

def Client.answering (a : BatchAnswer) : Client Unit where
  listTypes := return .ok []
  describe name := return .error (.unknownType name)
  deploy _ := return a
  query _ := return {}

namespace Deploy

def withIdentifier (c report : RecordChange) : RecordChange :=
  (identifierOf? report).elim c fun v => c.mapData (·.set idField v)

/-- The result holds what the client found, and the changes that it reports. Since they stand in
the order of the first reports about them, none of them is there twice. -/
structure ReportsEachOnce (changes : List RecordChange) (answer r : DeployResult) : Prop where
  findings_eq : r.findings = answer.findings
  mem_iff : ∀ i, i ∈ r.appliedIds ↔ i ∈ changes.map RecordChange.id ∧ i ∈ answer.appliedIds
  order : r.appliedIds.Pairwise fun i j =>
    answer.appliedIds.idxOf i < answer.appliedIds.idxOf j
  given : ∀ c ∈ r.applied, ∃ d ∈ changes, ∃ report,
    answer.applied.find? (·.id = d.id) = some report ∧ c = withIdentifier d report

structure FailsEach (changes : List RecordChange) (r : DeployResult) : Prop where
  applied_eq : r.applied = []
  ids_eq : r.findings.map Finding.id = changes.map RecordChange.id
  isBlocking : ∀ f ∈ r.findings, f.isBlocking

def Reflects (changes : List RecordChange) (r : DeployResult) : BatchAnswer → Prop
  | .done answer => ReportsEachOnce changes answer r
  | .failed _ => FailsEach changes r
  | .crashed _ => FailsEach changes r

/-- Looking for a change behind a report drops one change and puts off all others by one place. -/
theorem pairwise_ids_matchReports (changes reports : List RecordChange) :
    ((matchReports changes reports).map RecordChange.id).Pairwise fun i j =>
      (reports.map RecordChange.id).idxOf i < (reports.map RecordChange.id).idxOf j := by
  induction reports generalizing changes with
  | nil => exact List.Pairwise.nil
  | cons r reports ih =>
    -- Behind the first report only ids other than its own are matched.
    have hrest : ∀ cs : List RecordChange, r.id ∉ cs.map RecordChange.id →
        ((matchReports cs reports).map RecordChange.id).Pairwise fun i j =>
          ((r :: reports).map RecordChange.id).idxOf i <
            ((r :: reports).map RecordChange.id).idxOf j := by
      intro cs hr
      apply (ih cs).imp_of_mem
      intro i j hi hj hlt
      have hir : r.id ≠ i := fun h => hr (h ▸ (mem_ids_matchReports.1 hi).1)
      have hjr : r.id ≠ j := fun h => hr (h ▸ (mem_ids_matchReports.1 hj).1)
      rw [List.map_cons, List.idxOf_cons_ne _ hir, List.idxOf_cons_ne _ hjr]
      exact Nat.succ_lt_succ hlt
    rw [matchReports]
    cases hc : changes.reverse.find? (·.id = r.id) with
    | none =>
      apply hrest changes
      rw [← List.mem_reverse, ← List.map_reverse, ← RecordChange.isSome_find?_id, hc]
      decide
    | some c =>
      have hid : c.id = r.id := by simpa using List.find?_some hc
      have hgone : r.id ∉ (changes.filter (·.id ≠ r.id)).map RecordChange.id := by
        intro hmem
        obtain ⟨d, hd, hdr⟩ := List.mem_map.1 hmem
        exact of_decide_eq_true (List.mem_filter.1 hd).2 hdr
      dsimp only
      rw [List.map_cons, List.map_cons, id_withAssignedId, hid]
      refine List.pairwise_cons.2 ⟨?_, hrest _ hgone⟩
      intro i hi
      have hir : r.id ≠ i := fun h => hgone (h ▸ (mem_ids_matchReports.1 hi).1)
      rw [List.idxOf_cons_self, List.idxOf_cons_ne _ hir]
      exact Nat.succ_pos _

variable (changes : List RecordChange)

theorem reportsEachOnce_outcome (answer : DeployResult) :
    ReportsEachOnce changes answer (outcome changes (.done answer)) where
  findings_eq := rfl
  mem_iff _ := mem_ids_matchReports
  order := pairwise_ids_matchReports changes answer.applied
  given c hc := by
    obtain ⟨d, report, hd, hreport, rfl⟩ := exists_of_mem_matchReports hc
    have hid : d.id = (withAssignedId d report).id := (id_withAssignedId d report).symm
    refine ⟨d, List.mem_reverse.1 (List.mem_of_find?_eq_some hd), report, ?_, ?_⟩
    · rw [hid]
      exact hreport
    · exact withAssignedId_eq d report

theorem failsEach_failed (e : ClientError) : FailsEach changes (.failed changes e) where
  applied_eq := rfl
  ids_eq := by
    rw [DeployResult.failed, List.map_map]
    rfl
  isBlocking f hf := by
    obtain ⟨c, -, rfl⟩ := List.mem_map.1 hf
    rfl

/-- A batch makes one call, with the changes as they are resolved. Its result reflects the answer,
whatever the client answers. -/
theorem batch_reflects {σ : Type} (client : Client σ) (resolver : Resolver) (s : Session σ) :
    ∃ x : Exchange, client.Exchanges s [x] (batch client resolver changes s).2 ∧
      x.sent = changes.map resolver.resolveChange ∧
      Reflects changes (batch client resolver changes s).1 x.answer := by
  obtain ⟨x, s', hcall, hsent, hrun⟩ := batch_run client resolver changes s
  rw [hrun]
  refine ⟨x, .single hcall, hsent, ?_⟩
  cases x.answer with
  | done answer => exact reportsEachOnce_outcome changes answer
  | failed e => exact failsEach_failed changes e
  | crashed text => exact failsEach_failed changes (.ofCrash text)

/-- The condition is reported twice and the rule with a reference for its identifier; a report
about another record comes first. -/
example :
    let named (c : RecordChange) (v : Value Element) := c.mapData (·.set idField v)
    let other : RecordChange := .addition { name := "Other", type := Approval.recordType "Other" }
    let answer : DeployResult := { applied := [other, named Approval.discountCondition (.text "a01"),
      named Approval.discountCondition (.text "a02"),
      named Approval.discountRule (.reference ⟨other.id, none⟩)] }
    let r := (batch (Client.answering (.done answer)) { context := {} }
      [Approval.discountRule, Approval.discountCondition] { state := () }).1
    r.applied.map (fun c => (c.id, (c.data.get? idField).bind Value.text?)) =
      [(Approval.discountCondition.id, some "a01"), (Approval.discountRule.id, none)] := by
  decide

end Deploy

end ElementSync
