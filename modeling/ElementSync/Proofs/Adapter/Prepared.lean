import ElementSync.Proofs.Adapter.Deliveries
import ElementSync.Proofs.Filter.RoundTrip

/-!
# From the changes of a group to the records that are sent

The filters pack the logic of rules and merge the changes of labels. What they leave is sent as it
is, except that approval rules and conditions have fields written that hold no logic. So every
record that is sent goes out for a change of the group, or is the container of its labels.
-/

namespace ElementSync

open ConditionLogic

namespace RecordChange

/-- A record that goes out for another one, whose state afterwards is the same but for fields that
hold no logic. -/
structure GoesOutAs (d e : RecordChange) : Prop where
  id_eq : e.id = d.id
  after : ∀ i, d.after? = some i →
    ∃ es : Values Element, (∀ key ∈ Assoc.keys es, key ∉ logicFields) ∧
      e.after? = some (i.write es)

theorem GoesOutAs.refl (d : RecordChange) : d.GoesOutAs d :=
  ⟨rfl, fun _ hi => ⟨[], by simp [Assoc.keys], hi⟩⟩

/-- A record among packed changes is a packed record. -/
theorem exists_of_toChange_eq_mapAfter {f : Instance Element → Instance Element}
    {r : RecordChange} {c : Change Element} (h : ConditionLogic.mapAfter f c = r.toChange) :
    ∃ d : RecordChange, d.toChange = c ∧ r = mapAfter f d := by
  have hrecord : (c.toRecord.toOption).map (mapAfter f) = some r := by
    rw [← Change.toRecord_mapAfter, h, toRecord_toChange]
    rfl
  obtain ⟨d, hd, rfl⟩ := Option.map_eq_some_iff.1 hrecord
  cases hc : c.toRecord with
  | error e => simp [hc, Except.toOption] at hd
  | ok d' =>
    rw [hc] at hd
    cases hd
    exact ⟨d, Change.toChange_of_toRecord hc, rfl⟩

end RecordChange

namespace Approval
variable {changes : List RecordChange} {a : BatchAnswer}

theorem goesOutAs_provisional (d : RecordChange) : d.GoesOutAs (provisional d) := by
  refine ⟨id_provisional d, fun i hi => ?_⟩
  by_cases hcustom : hasCustomLogic d.data
  · refine ⟨[(conditionsMetField, .text allConditions)], by simp [Assoc.keys]; decide, ?_⟩
    cases d <;> cases hi <;> simp [provisional, hcustom] <;> rfl
  · rw [provisional, if_neg hcustom]
    exact (RecordChange.GoesOutAs.refl d).after i hi

theorem goesOutAs_link (d : RecordChange) (v : Option (Value Element)) :
    d.GoesOutAs (d.write (v.map (ruleField, ·)).toList) := by
  refine ⟨RecordChange.id_write d _, fun i hi => ⟨(v.map (ruleField, ·)).toList, ?_, ?_⟩⟩
  · cases v with
    | none => simp [Assoc.keys]
    | some v => simpa [Assoc.keys] using (by decide : ruleField ∉ logicFields)
  · rw [RecordChange.after?_write, hi, Option.map_some]

/-- Each of the three calls sends records of the list. -/
theorem exists_of_mem_restoreBatch {c : RecordChange} (h : c ∈ restoreBatch changes a) :
    ∃ d ∈ changes, d.GoesOutAs c := by
  obtain ⟨i, hi, rfl⟩ := List.mem_map.1 h
  obtain ⟨d, hd, hfinal⟩ := List.mem_filterMap.1 hi
  obtain ⟨v, -, rfl⟩ := Option.map_eq_some_iff.1 hfinal
  refine ⟨d, (List.mem_filter.1 hd).1, rfl, fun i hi => ⟨[(idField, v)], ?_, ?_⟩⟩
  · simpa [Assoc.keys] using (by decide : idField ∉ logicFields)
  · cases d <;> cases hi <;> rfl

end Approval

namespace Adapter
variable {σ : Type} (a : Adapter)

/-- What is sent is resolved from records that go out as those of the list, and for other groups
than that of approval rules from these themselves. -/
theorem exists_of_mem_sent (client : Client σ) (groupId : String) (records : List RecordChange)
    (s : Session σ) :
    ∃ xs, client.Exchanges s xs (a.send client groupId records s).2 ∧
      ∀ x ∈ xs, ∀ c ∈ x.sent, ∃ d ∈ records, ∃ e, d.GoesOutAs e ∧
        (groupId ≠ ChangeGroup.approval → e = d) ∧
        c = (a.resolver groupId records).resolveChange e := by
  by_cases hgroup : groupId = ChangeGroup.approval
  case pos =>
    subst hgroup
    obtain ⟨xs, hcalls, hsent⟩ := a.send_approval client records s
    refine ⟨xs, hcalls, ?_⟩
    intro x hx c hc
    rcases hsent with ⟨-, rfl, -⟩ | ⟨x₁, x₂, x₃, rfl, hsent₁, hsent₂, hsent₃, -⟩
    · cases hx
    · have hbatches : ∃ d ∈ records, ∃ e, d.GoesOutAs e ∧
          c = (a.resolver ChangeGroup.approval records).resolveChange e := by
        simp only [List.mem_cons, List.not_mem_nil, or_false] at hx
        rcases hx with rfl | rfl | rfl
        · obtain ⟨e, he, rfl⟩ := List.mem_map.1 (hsent₁ ▸ hc)
          obtain ⟨d, hd, -, rfl⟩ := Approval.exists_of_mem_firstBatch records he
          exact ⟨d, hd, _, Approval.goesOutAs_provisional d, rfl⟩
        · obtain ⟨e, he, rfl⟩ := List.mem_map.1 (hsent₂ ▸ hc)
          obtain ⟨d, hd, -, -, rfl⟩ := Approval.mem_conditionBatch.1 he
          exact ⟨d, hd, _, Approval.goesOutAs_link d _, rfl⟩
        · obtain ⟨e, he, rfl⟩ := List.mem_map.1 (hsent₃ ▸ hc)
          obtain ⟨d, hd, hgoes⟩ := Approval.exists_of_mem_restoreBatch he
          exact ⟨d, hd, e, hgoes, rfl⟩
      obtain ⟨d, hd, e, hgoes, heq⟩ := hbatches
      exact ⟨d, hd, e, hgoes, fun h => absurd rfl h, heq⟩
  case neg =>
    obtain ⟨xs, hcalls, hsent⟩ := a.send_batch client hgroup records s
    refine ⟨xs, hcalls, ?_⟩
    intro x hx c hc
    rcases hsent with ⟨-, rfl, -⟩ | ⟨x', -, rfl, hsent, -⟩
    · cases hx
    · obtain rfl := List.mem_singleton.1 hx
      obtain ⟨d, hd, rfl⟩ := List.mem_map.1 (hsent ▸ hc)
      exact ⟨d, hd, d, .refl d, fun _ => rfl, rfl⟩

def withSaved (maxDescribes : Nat) (templates : SavedByType) (labels : List (Change Element)) :
    Adapter :=
  { a with filters := Filter.builtInWith maxDescribes templates labels }

def prepared (g : ChangeGroup) : ChangeGroup :=
  { g with changes :=
      (Labels.merge a.source (packChanges a.source (a.unblocked g).changes)).1 }

variable {a} in
theorem not_lacks_labels_iff {g : ChangeGroup} :
    ¬ Labels.Lacks Labels.labelType (a.unblocked g).changes ↔
      ∃ c ∈ g.changes, Labels.isLabelChange c ∧
        ¬ Validation.isBlocked (Validation.run a.validators g.changes) c := by
  simp only [Labels.Lacks, mem_unblocked, not_forall, exists_prop, Bool.not_eq_false]
  constructor
  · rintro ⟨c, ⟨hc, hfree⟩, hlabel⟩
    exact ⟨c, hc, hlabel, hfree⟩
  · rintro ⟨c, hc, hlabel, hfree⟩
    exact ⟨c, ⟨hc, hfree⟩, hlabel⟩

/-- The record that the changes of labels in a group are merged into. -/
def IsLabelContainer (g : ChangeGroup) (c : RecordChange) : Prop :=
  ¬ Labels.Lacks Labels.labelType (a.unblocked g).changes ∧
    ∃ type, Labels.knownType? a.source = some type ∧ c.id = (Labels.container type []).id

variable {a} in
theorem exists_of_mem_prepared {g : ChangeGroup} {r : RecordChange}
    (hr : r ∈ (a.prepared g).records) :
    a.IsLabelContainer g r ∨ ∃ d : RecordChange, d.toChange ∈ (a.unblocked g).changes ∧
      r = RecordChange.mapAfter
        (packRule (contextOf a.source (a.unblocked g).changes)) d := by
  rcases Labels.mem_merge (ChangeGroup.mem_records.1 hr).1 with hmem | ⟨hsome, type, htype, hmerged⟩
  · obtain ⟨c, hc, hpacked⟩ := List.mem_map.1 hmem
    obtain ⟨d, rfl, rfl⟩ := RecordChange.exists_of_toChange_eq_mapAfter hpacked
    exact .inr ⟨d, hc, rfl⟩
  · refine .inl ⟨fun hnone => hsome (Pipeline.lacks_packChanges_iff.2 hnone), type, htype, ?_⟩
    rw [← RecordChange.id_toChange, hmerged]
    rfl

section
variable (maxDescribes : Nat) (templates : SavedByType) (labels : List (Change Element))
  (client : Client σ) (g : ChangeGroup) (s : Session σ)

/-- Whatever the filters keep, a deploy sends the records that they prepare, or nothing. -/
theorem deploy_session :
    ((a.withSaved maxDescribes templates labels).deploy client g s).2 = s ∨
      ((a.withSaved maxDescribes templates labels).deploy client g s).2 =
        (a.send client g.id (a.prepared g).records s).2 := by
  by_cases hempty : (a.unblocked g).changes.isEmpty
  case pos =>
    have hdeploy :=
      (a.withSaved maxDescribes templates labels).deploy_of_isEmpty client s hempty
    exact .inl (by rw [hdeploy])
  case neg =>
    let merged := Labels.merge a.source (packChanges a.source (a.unblocked g).changes)
    have hpre : Pipeline.preDeploy a.context (Filter.builtInWith maxDescribes templates labels)
        (a.unblocked g).changes s = ((_, ⟨merged.1, merged.2⟩), s) :=
      Pipeline.preDeploy_builtInWith_eq maxDescribes a.context templates labels _ s
    cases hresult : merged.2 with
    | error e =>
      rw [hresult] at hpre
      have hdeploy := (a.withSaved maxDescribes templates labels).deploy_of_preDeploy_error client s
        hempty hpre
      exact .inl (by rw [hdeploy])
    | ok u =>
      rw [hresult] at hpre
      obtain ⟨fs, o, hdeploy, -⟩ := (a.withSaved maxDescribes templates labels).deploy_of_preDeploy
        client s hempty hpre (fun f hf => Filter.isBuiltIn_of_mem_builtInWith hf) rfl
      exact .inr (by rw [hdeploy]; rfl)

/-- Whatever the filters keep and the client answers, every record that is sent is resolved from
one that goes out as a packed change of the group, or is the container of labels. -/
theorem deploy_exchanges :
    ∃ xs, client.Exchanges s xs
        ((a.withSaved maxDescribes templates labels).deploy client g s).2 ∧
      ∀ x ∈ xs, ∀ c ∈ x.sent, a.IsLabelContainer g c ∨
        ∃ d : RecordChange, d.toChange ∈ (a.unblocked g).changes ∧ c.id = d.id ∧
          ∃ e, (RecordChange.mapAfter
              (packRule (contextOf a.source (a.unblocked g).changes)) d).GoesOutAs e ∧
            (g.id ≠ ChangeGroup.approval → e = RecordChange.mapAfter
              (packRule (contextOf a.source (a.unblocked g).changes)) d) ∧
            c = (a.resolver g.id (a.prepared g).records).resolveChange e := by
  rcases a.deploy_session maxDescribes templates labels client g s with hidle | hsent
  · exact ⟨[], by rw [hidle]; exact .nil s, by simp⟩
  · obtain ⟨xs, hcalls, hrecords⟩ :=
      a.exists_of_mem_sent client g.id (a.prepared g).records s
    refine ⟨xs, by rw [hsent]; exact hcalls, ?_⟩
    intro x hx c hc
    obtain ⟨r, hr, e, hgoes, hplain, rfl⟩ := hrecords x hx c hc
    rcases exists_of_mem_prepared hr with ⟨hsome, type, htype, hid⟩ | ⟨d, hd, rfl⟩
    · refine .inl ⟨hsome, type, htype, ?_⟩
      rw [RecordChange.id_resolveChange, hgoes.id_eq, hid]
    · refine .inr ⟨d, hd, ?_, e, hgoes, hplain, rfl⟩
      rw [RecordChange.id_resolveChange, hgoes.id_eq,
        RecordChange.id_mapAfter (packsInto_packRule _)]

end

end Adapter

end ElementSync
