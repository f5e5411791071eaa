import ElementSync.Client.InMemory
import ElementSync.Proofs.Deploy.Reports

/-!
# Clients that answer every change

A result accounts for ids when its applied ids and the ids of its errors are together exactly
these, each as often. A client answers every change if each batch either fails as a whole or is
accounted for by its result. The system in memory does, whatever it is told to fail.
-/

namespace ElementSync

def Finding.errorIds (fs : List Finding) : List ElementId :=
  (fs.filter Finding.isBlocking).map Finding.id

namespace Finding

theorem mem_errorIds {fs : List Finding} {i : ElementId} :
    i ∈ errorIds fs ↔ ∃ f ∈ fs, f.isBlocking ∧ f.id = i := by
  simp only [errorIds, List.mem_map, List.mem_filter, and_assoc]

theorem errorIds_cons {f : Finding} (h : f.isBlocking) (fs : List Finding) :
    errorIds (f :: fs) = f.id :: errorIds fs := by
  rw [errorIds, List.filter_cons_of_pos h, List.map_cons]
  rfl

@[simp] theorem errorIds_append (fs gs : List Finding) :
    errorIds (fs ++ gs) = errorIds fs ++ errorIds gs := by
  rw [errorIds, List.filter_append, List.map_append]
  rfl

theorem errorIds_map_error {α : Type} (as : List α) (id : α → ElementId)
    (message detail : α → String) :
    errorIds (as.map fun a => .error (id a) (message a) (detail a)) = as.map id := by
  rw [errorIds, List.filter_eq_self.2, List.map_map]
  · rfl
  · intro f hf
    obtain ⟨a, -, rfl⟩ := List.mem_map.1 hf
    rfl

end Finding

/-- What was applied and the errors are together about exactly these ids. -/
def Accounts (applied : List ElementId) (findings : List Finding) (ids : List ElementId) : Prop :=
  (applied ++ Finding.errorIds findings).Perm ids

theorem accounts_iff {applied ids : List ElementId} {findings : List Finding} :
    Accounts applied findings ids ↔
      ∀ i, applied.count i + (Finding.errorIds findings).count i = ids.count i := by
  rw [Accounts, List.perm_iff_count]
  simp only [List.count_append]

def DeployResult.Accounts (r : DeployResult) (ids : List ElementId) : Prop :=
  ElementSync.Accounts r.appliedIds r.findings ids

/-- Every id is answered about exactly once, unless the batch failed as a whole. -/
def BatchAnswer.AnswersEach (ids : List ElementId) : BatchAnswer → Prop
  | done r => r.Accounts ids
  | failed _ => True
  | crashed _ => True

def Client.AnswersEach {σ : Type} (client : Client σ) : Prop :=
  ∀ batch : List RecordChange, (batch.map RecordChange.id).Nodup →
    ∀ s, (client.deploy batch s).1.AnswersEach (batch.map RecordChange.id)

namespace DeployResult

theorem accounts_empty : ({} : DeployResult).Accounts [] := List.Perm.refl []

theorem accounts_append {r r' : DeployResult} {ids ids' : List ElementId} (h : r.Accounts ids)
    (h' : r'.Accounts ids') : (r.append r').Accounts (ids ++ ids') := by
  rw [Accounts, accounts_iff] at *
  intro i
  have hi := h i
  have hi' := h' i
  simp only [append, appliedIds, List.map_append, List.count_append, Finding.errorIds_append] at *
  omega

end DeployResult

namespace InMemory
variable (m : InMemory)

theorem applyChange_accounts (c : RecordChange) (n : Nat) :
    (m.applyChange c n).1.Accounts [c.id] := by
  cases hfailure : m.failure? c with
  | some rule =>
    simp only [applyChange, hfailure]
    exact List.Perm.refl [c.id]
  | none =>
    simp only [applyChange, hfailure]
    split
    · have hid := c.id_mapData_set idField (.text (recordId (n + 1)))
      exact List.Perm.of_eq (congrArg (fun i => [i]) hid)
    · exact List.Perm.refl [c.id]

theorem mapM_applyChange_accounts (cs : List RecordChange) (n : Nat) {r : DeployResult}
    {ids : List ElementId} (h : r.Accounts ids) :
    ((cs.mapM m.applyChange n).1.foldl DeployResult.append r).Accounts
      (ids ++ cs.map RecordChange.id) := by
  induction cs generalizing n r ids with
  | nil =>
    rw [List.map_nil, List.append_nil]
    exact h
  | cons c cs ih =>
    have hstep := DeployResult.accounts_append h (m.applyChange_accounts c n)
    have hrest := ih (m.applyChange c n).2 hstep
    rw [List.append_assoc] at hrest
    rw [List.mapM_cons]
    exact hrest

theorem client_answersEach : m.client.AnswersEach := by
  intro batch _ n
  change (m.deploy batch n).1.AnswersEach _
  cases hcrash : m.crash with
  | some text =>
    simp only [deploy, hcrash]
    trivial
  | none =>
    cases hfailure : m.batchFailure with
    | some code =>
      simp only [deploy, hcrash, hfailure]
      trivial
    | none =>
      simp only [deploy, hcrash, hfailure]
      exact m.mapM_applyChange_accounts batch n DeployResult.accounts_empty

end InMemory

end ElementSync
