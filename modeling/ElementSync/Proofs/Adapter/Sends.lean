import ElementSync.Adapter
import ElementSync.Proofs.Reference.Identifiers

/-!
# What a deploy sends is plain

A program sends batches of a kind when every run of it puts only such batches behind those in the
trace. This is closed under sequencing, so it is shown of a program call by call. Filters send
nothing, and every batch is resolved before it goes out. So no reference and no template reaches the
client, whatever group is deployed and whatever identifiers the client has reported in the phases
before.
-/

namespace ElementSync

namespace Wire
variable {σ α β : Type} {P : List RecordChange → Prop}

def Sends (P : List RecordChange → Prop) (x : Wire σ α) : Prop :=
  ∀ s, ∃ sent, (x s).2.trace.batches = s.trace.batches ++ sent ∧ ∀ batch ∈ sent, P batch

namespace Sends

theorem of_batches_eq {x : Wire σ α} (h : ∀ s, (x s).2.trace.batches = s.trace.batches) :
    Sends P x :=
  fun s => ⟨[], by rw [h s, List.append_nil], by simp⟩

theorem pure (a : α) : Sends P (Pure.pure a : Wire σ α) := of_batches_eq fun _ => rfl

theorem bind {x : Wire σ α} {f : α → Wire σ β} (hx : Sends P x) (hf : ∀ a, Sends P (f a)) :
    Sends P (x >>= f) := by
  intro s
  obtain ⟨sent, htrace, hsent⟩ := hx s
  obtain ⟨sent', htrace', hsent'⟩ := hf (x s).1 (x s).2
  refine ⟨sent ++ sent', ?_, List.forall_mem_append.2 ⟨hsent, hsent'⟩⟩
  rw [← List.append_assoc, ← htrace]
  exact htrace'

theorem noteHook (hook : String) : Sends P (Wire.noteHook hook : Wire σ Unit) :=
  of_batches_eq fun _ => rfl

theorem sendBatch (client : Client σ) {records : List RecordChange} (h : P records) :
    Sends P (client.sendBatch records) :=
  fun _ => ⟨[records], rfl, by simpa using h⟩

end Sends

end Wire

open Wire

variable {σ : Type} {P : List RecordChange → Prop}

namespace Filter

theorem sends_probeResult {α : Type} (label : String) (failing : Option Hook) (hook : Hook)
    (a : α) : Sends P (probeResult label failing hook a : Wire σ (Except Failure α)) :=
  (Sends.noteHook _).bind fun _ => Sends.pure _

theorem sends_preDeploy (context : FilterContext) (cs : List (Change Element)) (f : Filter) :
    Sends P (f.preDeploy context cs : Wire σ _) := by
  cases f with
  | probe label failing =>
    exact (sends_probeResult label failing .preDeploy ()).bind fun _ => Sends.pure _
  | _ => exact Sends.pure _

theorem sends_onDeploy (cs : List (Change Element)) (f : Filter) :
    Sends P (f.onDeploy cs : Wire σ _) := by
  cases f with
  | probe label failing =>
    exact (sends_probeResult label failing .onDeploy ()).bind fun _ => Sends.pure _
  | _ => exact Sends.pure _

end Filter

namespace Pipeline

theorem sends_run {hook : List (Change Element) → Filter →
      Wire σ (Filter × Step (List (Change Element)) Unit)}
    (hhook : ∀ cs f, Sends P (hook cs f)) (fs : List Filter) (cs : List (Change Element)) :
    Sends P (run hook fs cs) := by
  induction fs generalizing cs with
  | nil => exact Sends.pure _
  | cons f fs ih =>
    apply (hhook cs f).bind
    rintro ⟨f', left, result⟩
    cases result with
    | error e => exact Sends.pure _
    | ok u => exact (ih left).bind fun _ => Sends.pure _

theorem sends_preDeploy (context : FilterContext) (fs : List Filter) (cs : List (Change Element)) :
    Sends P (preDeploy context fs cs : Wire σ _) :=
  sends_run (Filter.sends_preDeploy context) fs cs

theorem sends_onDeploy (fs : List Filter) (cs : List (Change Element)) :
    Sends P (onDeploy fs cs : Wire σ _) :=
  (sends_run Filter.sends_onDeploy fs.reverse cs).bind fun _ => Sends.pure _

end Pipeline

section
variable (client : Client σ) {resolver : Resolver}

theorem Deploy.sends_batch (hP : ∀ cs : List RecordChange, P (cs.map resolver.resolveChange))
    (changes : List RecordChange) : Sends P (batch client resolver changes) := by
  apply (Sends.sendBatch client (hP changes)).bind
  intro a
  cases a <;> exact Sends.pure _

theorem Approval.sends_deploy (hP : ∀ cs : List RecordChange, P (cs.map resolver.resolveChange))
    (changes : List RecordChange) : Sends P (deploy client resolver changes) :=
  (Deploy.sends_batch client hP _).bind fun _ => (Deploy.sends_batch client hP _).bind fun _ =>
    (Deploy.sends_batch client hP _).bind fun _ => Sends.pure _

end

namespace Adapter
variable (a : Adapter) (client : Client σ)

theorem sends_send (hP : ∀ resolver : Resolver, resolver.SendsIdentifiers →
      ∀ cs : List RecordChange, P (cs.map resolver.resolveChange))
    (groupId : String) (records : List RecordChange) :
    Sends P (a.send client groupId records) := by
  have hresolver := hP _ (Resolver.sendsIdentifiers_forRecords groupId records a.source)
  unfold send
  split
  · exact Sends.pure _
  · split
    · exact Approval.sends_deploy client hresolver records
    · exact Deploy.sends_batch client hresolver records

/-- What holds of everything that is resolved to identifiers holds of all that is sent. -/
theorem sends_deploy (hP : ∀ resolver : Resolver, resolver.SendsIdentifiers →
      ∀ cs : List RecordChange, P (cs.map resolver.resolveChange)) (g : ChangeGroup) :
    Sends P (a.deploy client g) := by
  unfold deploy
  dsimp only
  split
  · exact Sends.pure _
  · apply (Pipeline.sends_preDeploy a.context a.filters _).bind
    rintro ⟨fs, left, result⟩
    cases result with
    | error e => exact Sends.pure _
    | ok u =>
      apply ((a.sends_send client hP _ _).bind fun _ => Sends.pure _).bind
      intro sent
      exact (Pipeline.sends_onDeploy fs sent.applied).bind fun _ => Sends.pure _

/-- No record that a deploy sends holds a reference or a template in one of its states, at any
depth; so all of them can be written. -/
theorem deploy_sends_plain (g : ChangeGroup) (s : Session σ) :
    ∃ sent, (a.deploy client g s).2.trace.batches = s.trace.batches ++ sent ∧
      ∀ batch ∈ sent, ∀ c ∈ batch, ∀ i, c.before? = some i ∨ c.after? = some i →
        Values.IsPlain i.value ∧ ∃ record, Values.toRecord i.value = .ok record := by
  obtain ⟨sent, htrace, hsent⟩ := a.sends_deploy client
    (P := fun batch => ∀ c ∈ batch, RecordChange.IsPlain c) (by
      intro resolver hresolver cs c hc
      obtain ⟨d, -, rfl⟩ := List.mem_map.1 hc
      exact hresolver.isPlain_resolveChange d) g s
  refine ⟨sent, htrace, ?_⟩
  intro batch hbatch c hc i hi
  have hplain := hsent batch hbatch c hc i hi
  exact ⟨hplain, (Values.exists_toRecord_iff i.value).2 hplain⟩

end Adapter

end ElementSync
