import ElementSync.Client.Basic

/-!
# Exchanges with a client

An exchange is one deploy call: the batch that went out and the answer that came back. What a
deploy does to a session is told by its exchanges, since each of them leaves its batch in the
trace and the client in the state behind its answer.
-/

namespace ElementSync

namespace BatchAnswer

def applied : BatchAnswer → List RecordChange
  | done r => r.applied
  | failed _ => []
  | crashed _ => []

def appliedIds (a : BatchAnswer) : List ElementId := a.applied.map RecordChange.id

end BatchAnswer

structure Exchange where
  sent : List RecordChange
  answer : BatchAnswer

namespace Client
variable {σ : Type} (client : Client σ)

/-- `client.Exchanges s xs s'`: exactly the exchanges `xs`, one after the other, lead from the
session `s` to the session `s'`. -/
inductive Exchanges : Session σ → List Exchange → Session σ → Prop
  | nil (s : Session σ) : Exchanges s [] s
  | cons {s s' s'' : Session σ} {x : Exchange} {xs : List Exchange}
      (first : client.sendBatch x.sent s = (x.answer, s')) (rest : Exchanges s' xs s'') :
      Exchanges s (x :: xs) s''

variable {client}

theorem sendBatch_run (records : List RecordChange) (s : Session σ) :
    client.sendBatch records s = ((client.deploy records s.state).1,
      { state := (client.deploy records s.state).2
        trace := { s.trace with batches := s.trace.batches ++ [records] } }) := rfl

namespace Exchanges

theorem single {s s' : Session σ} {x : Exchange}
    (h : client.sendBatch x.sent s = (x.answer, s')) : client.Exchanges s [x] s' :=
  cons h (nil s')

theorem append {s s' s'' : Session σ} {xs ys : List Exchange} (h : client.Exchanges s xs s')
    (h' : client.Exchanges s' ys s'') : client.Exchanges s (xs ++ ys) s'' := by
  induction h with
  | nil => exact h'
  | cons first _ ih => exact cons first (ih h')

/-- The trace keeps every batch and nothing else changes in it. -/
theorem trace_eq {s s' : Session σ} {xs : List Exchange} (h : client.Exchanges s xs s') :
    s'.trace = { s.trace with batches := s.trace.batches ++ xs.map Exchange.sent } := by
  induction h with
  | nil => simp
  | @cons s s' s'' x xs first _ ih =>
    rw [sendBatch_run] at first
    rw [ih, ← (Prod.mk.inj first).2]
    simp

theorem batches_eq {s s' : Session σ} {xs : List Exchange} (h : client.Exchanges s xs s') :
    s'.trace.batches = s.trace.batches ++ xs.map Exchange.sent := by
  rw [h.trace_eq]

/-- What holds of all answers of a client holds in every exchange. -/
theorem forall_answer {P : List RecordChange → BatchAnswer → Prop}
    (hP : ∀ records state, P records (client.deploy records state).1) {s s' : Session σ}
    {xs : List Exchange} (h : client.Exchanges s xs s') : ∀ x ∈ xs, P x.sent x.answer := by
  induction h with
  | nil => simp
  | @cons s s' s'' x xs first _ ih =>
    intro y hy
    rcases List.mem_cons.1 hy with rfl | hy
    · rw [sendBatch_run] at first
      rw [← (Prod.mk.inj first).1]
      exact hP y.sent s.state
    · exact ih y hy

end Exchanges

end Client

end ElementSync
