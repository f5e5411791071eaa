import ElementSync.Client.InMemory
import ElementSync.Proofs.Deploy.Reports
import ElementSync.Proofs.Reference.Identifiers

/-!
# Clients that create what they are sent

Such a client reports every record that is to be added, with an identifier. The system in memory
does when it is told to fail nothing.
-/

namespace ElementSync

/-- Every record of a batch of additions is reported, first of all with an identifier. -/
def Client.CreatesEach {σ : Type} (client : Client σ) : Prop :=
  ∀ records : List RecordChange, (∀ c ∈ records, c.action = .add ∧ c.IsPlain) → ∀ state,
    ∀ c ∈ records, ∃ report,
      (client.deploy records state).1.applied.find? (·.id = c.id) = some report ∧
      (Deploy.identifierOf? report).isSome

structure DeployResult.Creates (r : DeployResult) (ids : List ElementId) : Prop where
  ids_eq : r.appliedIds = ids
  identifiers : ∀ report ∈ r.applied, (Deploy.identifierOf? report).isSome

namespace DeployResult

theorem creates_append {r r' : DeployResult} {ids ids' : List ElementId} (h : r.Creates ids)
    (h' : r'.Creates ids') : (r.append r').Creates (ids ++ ids') where
  ids_eq := by
    rw [appliedIds, append, List.map_append]
    exact congr (congrArg List.append h.ids_eq) h'.ids_eq
  identifiers := List.forall_mem_append.2 ⟨h.identifiers, h'.identifiers⟩

/-- The first report about an id comes with an identifier. -/
theorem Creates.exists_report {r : DeployResult} {ids : List ElementId}
    (h : r.Creates ids) {i : ElementId} (hi : i ∈ ids) :
    ∃ report, r.applied.find? (·.id = i) = some report ∧
      (Deploy.identifierOf? report).isSome := by
  rw [← h.ids_eq, appliedIds, ← RecordChange.isSome_find?_id] at hi
  obtain ⟨report, hreport⟩ := Option.isSome_iff_exists.1 hi
  exact ⟨report, hreport, h.identifiers report (List.mem_of_find?_eq_some hreport)⟩

end DeployResult

namespace InMemory

theorem applyChange_creates {c : RecordChange} (haction : c.action = .add) (hplain : c.IsPlain)
    (n : Nat) : (applyChange {} c n).1.Creates [c.id] := by
  have hreports : (applyChange {} c n).1.applied =
      [if (c.data.get? idField).isNone then
        c.mapData (·.set idField (.text (recordId (n + 1)))) else c] := by
    have hnone : ({} : InMemory).failure? c = none := rfl
    simp only [applyChange, hnone, haction, decide_true, Bool.true_and]
    split <;> rfl
  constructor
  · rw [DeployResult.appliedIds, hreports]
    split
    · exact congrArg (fun i => [i]) (c.id_mapData_set _ _)
    · rfl
  · intro report hreport
    rw [hreports, List.mem_singleton] at hreport
    rw [hreport]
    split
    case isTrue => simp [Deploy.identifierOf?, Value.text, Value.reference?]
    case isFalse hsome =>
      cases hv : c.data.get? idField with
      | none => exact absurd (by rw [hv]; rfl) hsome
      | some v =>
        have hvalue : Values.IsPlain c.data.value := by
          rw [Change.eq_addition haction] at hplain ⊢
          exact hplain _ (Or.inr rfl)
        simp [Deploy.identifierOf?, hv, hvalue.reference?_eq_none hv]

theorem mapM_applyChange_creates {cs : List RecordChange}
    (hcs : ∀ c ∈ cs, c.action = .add ∧ c.IsPlain) (n : Nat) {r : DeployResult}
    {ids : List ElementId} (h : r.Creates ids) :
    ((cs.mapM (applyChange {}) n).1.foldl DeployResult.append r).Creates
      (ids ++ cs.map RecordChange.id) := by
  induction cs generalizing n r ids with
  | nil =>
    rw [List.map_nil, List.append_nil]
    exact h
  | cons c cs ih =>
    obtain ⟨⟨haction, hplain⟩, hcs⟩ := List.forall_mem_cons.1 hcs
    have hstep := DeployResult.creates_append h (applyChange_creates haction hplain n)
    have hrest := ih hcs (applyChange {} c n).2 hstep
    rw [List.append_assoc] at hrest
    rw [List.mapM_cons]
    exact hrest

/-- A system that is told to fail nothing creates every record. -/
theorem client_createsEach : (client {}).CreatesEach := by
  intro records hrecords n c hc
  have hempty : ({} : DeployResult).Creates [] := ⟨rfl, by simp⟩
  have hcreates := mapM_applyChange_creates hrecords n hempty
  exact hcreates.exists_report (List.mem_map_of_mem hc)

end InMemory

end ElementSync
