import ElementSync.Client.InMemory
import ElementSync.Filter.Basic
import ElementSync.Proofs.ConditionLogic.Restoring
import ElementSync.Proofs.ConditionLogic.RoundTrip
import ElementSync.Proofs.Deploy.ApprovalCalls

/-!
# Condition logic from a fetch to a deploy

A fetch unpacks the logic of a rule over its own conditions, and a deploy packs it over what is
known of them by then. A rule whose conditions have kept their indices goes out as it came in,
whatever its text names and however its conditions are numbered.
-/

namespace ElementSync

namespace ConditionLogic

variable {k : RuleKind} {es : List Element} {i : Instance Element}

/-- At a position of a rule stands a condition with this index. -/
theorem RuleKind.exists_of_lookup_positions {n : Int} {e : Element}
    (h : (k.positions es i).lookup n = some e) :
    ∃ d, .inst d ∈ es ∧ e = .inst d ∧ k.index? d = some n := by
  obtain ⟨d, hd, hentry⟩ := List.mem_filterMap.1 (Assoc.mem_of_lookup_ofList h)
  obtain ⟨n', hindex, hpair⟩ := Option.map_eq_some_iff.1 hentry
  cases hpair
  obtain ⟨x, hx, hinst⟩ :=
    List.mem_filterMap.1 (List.mem_filter.1 (List.mem_filter.1 hd).1).1
  cases x with
  | inst j =>
    cases hinst
    exact ⟨d, hx, rfl, hindex⟩
  | _ => cases hinst

theorem exists_of_mem_references {raw : String} {t : Template Element}
    (ht : unpack? (k.positions es i) raw = some t) {r : Reference Element}
    (hr : r ∈ t.references) : ∃ d, .inst d ∈ es ∧ r = .ofElement (.inst d) := by
  obtain ⟨n, -, e, he, rfl⟩ := (mem_references_unpack? ht).1 hr
  obtain ⟨d, hd, rfl, -⟩ := RuleKind.exists_of_lookup_positions he
  exact ⟨d, hd, rfl⟩

/-- Every condition that a template refers to has by now the index that it was fetched with. -/
def KeepsIndices (k : RuleKind) (es : List Element) (c : LookupContext) (t : Template Element) :
    Prop :=
  ∀ r ∈ t.references, ∀ d, .inst d ∈ es → d.id = r.target → currentIndex c k r = k.index? d

theorem pack_of_keepsIndices {c : LookupContext} {raw : String} {t : Template Element}
    (ht : unpack? (k.positions es i) raw = some t) (hkeeps : KeepsIndices k es c t) :
    pack (currentIndex c k) t = .ok raw := by
  have hposition : ∀ n ∈ (Text.digitRuns raw).filterMap position?, ∀ e,
      (k.positions es i).lookup n = some e → currentIndex c k (.ofElement e) = some n := by
    intro n hn e he
    rw [filterMap_position?_digitRuns] at hn
    obtain ⟨d, hd, rfl, hindex⟩ := RuleKind.exists_of_lookup_positions he
    rw [hkeeps _ ((mem_references_unpack? ht).2 ⟨n, hn, _, he, rfl⟩) d hd rfl, hindex]
  obtain ⟨-, rfl⟩ := unpack?_eq_some_iff.1 ht
  rw [pack_ofParts, runs, packParts_parts hposition, Text.join_digitRuns]

/-- The logic of a rule as a fetch leaves it. -/
theorem unpackInstance_eq {raw : String} (hkind : RuleKind.of? i = some k)
    (hraw : i.get? k.logicField = some (.text raw)) :
    unpackInstance es i =
      (unpack? (k.positions es i) raw).elim i fun t => i.set k.logicField (.template t) := by
  have htext : i.text? k.logicField = some raw := by
    rw [Instance.text?, hraw]
    rfl
  rw [unpackInstance, hkind]
  dsimp only
  rw [htext, Option.bind_some]
  cases unpack? (k.positions es i) raw <;> rfl

theorem unpack?_of_get? {raw : String} (hkind : RuleKind.of? i = some k)
    (hraw : i.get? k.logicField = some (.text raw)) {t : Template Element}
    (h : (unpackInstance es i).get? k.logicField = some (.template t)) :
    unpack? (k.positions es i) raw = some t := by
  rw [unpackInstance_eq hkind hraw] at h
  cases ht : unpack? (k.positions es i) raw with
  | none =>
    rw [ht, Option.elim_none, hraw] at h
    cases h
  | some t' =>
    rw [ht, Option.elim_some, Instance.get?_set_self] at h
    cases h
    rfl

theorem packRule_of_text {c : LookupContext} {raw : String} (hkind : RuleKind.of? i = some k)
    (hraw : i.get? k.logicField = some (.text raw)) : packRule c i = i := by
  have hnone : packed? k.logicField (currentIndex c k) i = none := by
    rw [packed?, template?, hraw]
    rfl
  simp only [packRule, hkind, packInstance, hnone]

/-- Packing gives back the rule that was unpacked. -/
theorem packRule_unpackInstance {c : LookupContext} {raw : String}
    (hkind : RuleKind.of? i = some k) (hraw : i.get? k.logicField = some (.text raw))
    (hkeeps : ∀ t, unpack? (k.positions es i) raw = some t → KeepsIndices k es c t) :
    packRule c (unpackInstance es i) = i := by
  rw [unpackInstance_eq hkind hraw]
  cases ht : unpack? (k.positions es i) raw with
  | none => exact packRule_of_text hkind hraw
  | some t =>
    have hkind' : RuleKind.of? (i.set k.logicField (.template t)) = some k :=
      (RuleKind.of?_eq_of_type rfl).trans hkind
    have hpacked : packed? k.logicField (currentIndex c k) (i.set k.logicField (.template t)) =
        some (t, raw) := by
      rw [packed?, template?, Instance.get?_set_self]
      simp [Value.template?, pack_of_keepsIndices ht (hkeeps t ht), Except.toOption]
    simp only [Option.elim_some, packRule, hkind', packInstance, hpacked]
    rw [Instance.set_set, Instance.set_of_get? hraw]

theorem mapAfter_of_after? (f : Instance Element → Instance Element) {c : Change Element}
    {j : Instance Element} (h : c.after? = some (.inst j)) :
    mapAfter f c = c.mapData fun _ => .inst (f j) := by
  cases c with
  | removal b => cases h
  | addition a => cases h; rfl
  | modification b a => cases h; rfl

end ConditionLogic

namespace Filter
variable {σ : Type}

open ConditionLogic

/-- A rule that is deployed as it was fetched is deployed with the logic that it had before the
fetch, unless a condition in it has got another index. -/
theorem preDeploy_fetched (client : Client σ) (fetching deploying : FilterContext)
    (saved : SavedByType) (s s' : Session σ) {es : List Element} {m : Nat}
    {i j : Instance Element} {k : RuleKind} {raw : String}
    (hi : es[m]? = some (.inst i)) (hkind : RuleKind.of? i = some k)
    (hraw : i.get? k.logicField = some (.text raw))
    (hj : (onFetch client fetching es (conditionLogic saved) s).1.left[m]? = some (.inst j))
    {cs : List (Change Element)} {n : Nat} {c : Change Element} (hc : cs[n]? = some c)
    (hafter : c.after? = some (.inst j))
    (hkeeps : ∀ t, j.get? k.logicField = some (.template t) →
      KeepsIndices k es (contextOf deploying.source cs) t) :
    (preDeploy deploying cs (conditionLogic saved) s').1.2.result = .ok () ∧
      (preDeploy deploying cs (conditionLogic saved) s').1.2.left[n]? =
        some (c.mapData fun _ => .inst i) := by
  have hpacked : packRule (contextOf deploying.source cs) j = i := by
    have hleft : (if fetching.profile.isFeatureEnabled feature then unpackAll es else es)[m]? =
        some (.inst j) := hj
    split at hleft
    case isTrue =>
      rw [unpackAll, List.getElem?_map, hi] at hleft
      cases hleft
      exact packRule_unpackInstance hkind hraw fun t ht => hkeeps t (by
        rw [unpackInstance_eq hkind hraw, ht, Option.elim_some, Instance.get?_set_self])
    case isFalse =>
      rw [hi] at hleft
      cases hleft
      exact packRule_of_text hkind hraw
  refine ⟨rfl, ?_⟩
  change (packChanges deploying.source cs)[n]? = _
  rw [packChanges, List.getElem?_map, hc, Option.map_some, mapAfter_of_after? _ hafter, hpacked]

/-- A rule whose logic names a position twice, writes one with a leading zero, too, and names one
that no condition has. -/
def tierRule : Instance Element where
  name := "Tier"
  type := Approval.recordType Approval.ruleType
  value := [("sbaa__AdvancedCondition__c", .text "(1 OR 03) AND 3 AND 1 AND 12")]

def tierCondition (name : String) (index : Value Element) : Instance Element where
  name := name
  type := Approval.recordType Approval.conditionType
  value := [(Approval.ruleField, .reference ⟨tierRule.id, none⟩), ("sbaa__Index__c", index)]

/-- Two conditions have index 1, one of them as a float. -/
def tiers : List Element :=
  [.inst tierRule, .inst (tierCondition "Tier_1" (.int 1)),
   .inst (tierCondition "Tier_1b" (.scalar (.float (Binary64.ofInt 1)))),
   .inst (tierCondition "Tier_3" (.int 3))]

/-- One condition is modified along with the rule, one is known, and one is left to its snapshot. -/
theorem preDeploy_fetched_tiers :
    let known := tierCondition "Tier_1b" (.int 1)
    let deploying : FilterContext :=
      { source := fun id => if id = known.id then some (.inst known) else none }
    let moved := tierCondition "Tier_3" (.scalar (.float (Binary64.ofInt 3)))
    let fetched := unpackInstance tiers tierRule
    let changes := [.modification (.inst tierRule) (.inst fetched), .addition (.inst moved)]
    ((template? "sbaa__AdvancedCondition__c" fetched).map (·.references.map Reference.target)) =
        some [known.id, moved.id, known.id] ∧
      (preDeploy deploying changes (conditionLogic []) { state := 0 }).1.2.left[0]? =
        some (.modification (.inst tierRule) (.inst tierRule)) := by
  intro known deploying moved fetched changes
  refine ⟨by decide +kernel, ?_⟩
  let k := RuleKind.all.getLast (List.cons_ne_nil _ _)
  have hi : tiers[0]? = some (.inst tierRule) := rfl
  have hkind : RuleKind.of? tierRule = some k := rfl
  have hraw : tierRule.get? k.logicField =
      some (.text "(1 OR 03) AND 3 AND 1 AND 12") := rfl
  have hsame : ∀ e ∈ tiers, ∀ e' ∈ tiers, e'.id = e.id →
      currentIndex (contextOf deploying.source changes) k (.ofElement e) =
        e'.inst?.bind k.index? := by
    decide +kernel
  have hkeeps : ∀ t, fetched.get? k.logicField = some (.template t) →
      KeepsIndices k tiers (contextOf deploying.source changes) t := by
    intro t ht r hr d hd hid
    obtain ⟨e, he, rfl⟩ := exists_of_mem_references (unpack?_of_get? hkind hraw ht) hr
    exact hsame _ he _ hd hid
  exact (preDeploy_fetched (InMemory.client {}) {} deploying [] { state := 0 } { state := 0 }
    (n := 0) hi hkind hraw rfl rfl rfl hkeeps).2

end Filter

end ElementSync
