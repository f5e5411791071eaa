import ElementSync.Proofs.Filter.Undo

/-!
# Templates kept from another deploy

Between the hooks before and after a deploy the filters keep what they took away. When a deploy ends
in between, the next one finds these templates. What the filters do before a deploy does not depend
on them; after it they are restored, too, unless there are new templates of the same type.
-/

namespace ElementSync

namespace ConditionLogic

/-- The kept templates of the types of which nothing is packed in the changes. -/
def leftover (source : ElementSource) (cs : List (Change Element)) (kept : SavedByType) :
    SavedByType :=
  kept.filter fun e => ((saveChanges source cs []).lookup e.1).isNone

/-- If a template is kept for a rule, it is the logic of the rule. -/
def KeepsTemplate (kept : SavedByType) (i : Instance Element) : Prop :=
  ∀ k t, RuleKind.of? i = some k → ((kept.lookup k.ruleType).getD []).lookup i.id = some t →
    i.get? k.logicField = some (.template t)

section
variable (source : ElementSource) (cs : List (Change Element)) (kept : SavedByType)

theorem lookup_saveChanges_or {k : RuleKind} (hk : k ∈ RuleKind.all) :
    (saveChanges source cs kept).lookup k.ruleType =
      ((saveChanges source cs []).lookup k.ruleType).or (kept.lookup k.ruleType) := by
  rw [lookup_saveChanges_ruleType source kept hk, lookup_saveChanges_ruleType source [] hk,
    List.lookup_nil, Option.or_none]

@[simp] theorem restore_nil (field : String) (i : Instance Element) : restore field [] i = i := rfl

/-- What was kept is restored after the templates of the changes, where these have none of the
type. -/
theorem restoreRule_saveChanges (i : Instance Element) :
    restoreRule (saveChanges source cs kept) i =
      restoreRule (leftover source cs kept) (restoreRule (saveChanges source cs []) i) := by
  have hkind := RuleKind.of?_eq_of_type
    (Instance.type_eq_of_outline (outline_restoreRule (saveChanges source cs []) i))
  rw [restoreRule, restoreRule, hkind]
  cases hof : RuleKind.of? i with
  | none => simp only [restoreRule, hof]
  | some k =>
    have hleft := Assoc.lookup_filter kept
      (fun type => ((saveChanges source cs []).lookup type).isNone) k.ruleType
    simp only [restoreRule, hof, leftover, hleft,
      lookup_saveChanges_or source cs kept (RuleKind.of?_eq_some hof).1]
    cases (saveChanges source cs []).lookup k.ruleType <;> simp

theorem restoreChanges_saveChanges (applied : List (Change Element)) :
    restoreChanges (saveChanges source cs kept) applied =
      restoreChanges (leftover source cs kept)
        (restoreChanges (saveChanges source cs []) applied) := by
  rw [restoreChanges, restoreChanges, restoreChanges, List.map_map]
  apply List.map_congr_left
  intro c _
  rw [Function.comp_apply, mapAfter_comp]
  exact congrArg (fun f => mapAfter f c) (funext (restoreRule_saveChanges source cs kept))

end

theorem restoreRule_eq_self_iff {kept : SavedByType} {i : Instance Element} :
    restoreRule kept i = i ↔ KeepsTemplate kept i := by
  rw [restoreRule]
  cases hof : RuleKind.of? i with
  | none => simp [KeepsTemplate, hof]
  | some k =>
    simp only [KeepsTemplate, hof, Option.some.injEq, restore]
    constructor
    · rintro hself _ t rfl ht
      rw [ht] at hself
      rw [← hself]
      exact Instance.get?_set_self i k.logicField (.template t)
    · intro hkeeps
      cases ht : ((kept.lookup k.ruleType).getD []).lookup i.id with
      | none => rfl
      | some t => exact Instance.set_of_get? (hkeeps k t rfl ht)

theorem mapAfter_eq_self_iff {f : Instance Element → Instance Element} {c : Change Element} :
    mapAfter f c = c ↔ ∀ i, c.after?.bind Element.inst? = some i → f i = i := by
  cases c with
  | removal b => simp [mapAfter, Change.after?]
  | addition a => cases a <;> simp [mapAfter, Change.mapData, Change.after?, Element.inst?]
  | modification b a => cases a <;> simp [mapAfter, Change.mapData, Change.after?, Element.inst?]

theorem restoreChanges_eq_self_iff {kept : SavedByType} {cs : List (Change Element)} :
    restoreChanges kept cs = cs ↔ ∀ i ∈ afterInstances cs, KeepsTemplate kept i := by
  have hmap : restoreChanges kept cs = cs.map (fun c => c) ↔
      ∀ c ∈ cs, mapAfter (restoreRule kept) c = c := List.map_inj_left
  rw [List.map_id'] at hmap
  simp only [hmap, mapAfter_eq_self_iff, restoreRule_eq_self_iff, afterInstances,
    List.mem_filterMap]
  constructor
  · rintro h i ⟨c, hc, hi⟩
    exact h c hc i hi
  · intro h c hc i hi
    exact h i ⟨c, hc, hi⟩

end ConditionLogic

def Labels.saves (source : ElementSource) (cs saved : List (Change Element)) :
    List (Change Element) :=
  let merged := cs.filter isLabelChange
  if (merge source cs).2.isOk && !merged.isEmpty then merged else saved

namespace Filter

def builtInWith (maxDescribes : Nat) (templates : ConditionLogic.SavedByType)
    (changes : List (Change Element)) : List Filter :=
  [toolingTypes maxDescribes, recordReferences, conditionLogic templates, labels changes,
   packageDependencies, issueTypes, changeTimes]

theorem isBuiltIn_of_mem_builtInWith {maxDescribes : Nat} {templates : ConditionLogic.SavedByType}
    {changes : List (Change Element)} {f : Filter}
    (h : f ∈ builtInWith maxDescribes templates changes) : f.isBuiltIn := by
  simp only [builtInWith, List.mem_cons, List.not_mem_nil, or_false] at h
  rcases h with rfl | rfl | rfl | rfl | rfl | rfl | rfl <;> rfl

end Filter

namespace Pipeline
variable {σ : Type} (maxDescribes : Nat)

open ConditionLogic

/-- Before a deploy only the filters of logic and of labels do anything. -/
theorem preDeploy_builtInWith_eq (context : FilterContext) (kept : SavedByType)
    (saved cs : List (Change Element)) (s : Session σ) :
    let packed := packChanges context.source cs
    let merged := Labels.merge context.source packed
    preDeploy context (Filter.builtInWith maxDescribes kept saved) cs s =
      ((Filter.builtInWith maxDescribes (saveChanges context.source cs kept)
        (Labels.saves context.source packed saved), ⟨merged.1, merged.2⟩), s) := by
  intro packed merged
  have hbefore : run (Filter.preDeploy context)
      [.toolingTypes maxDescribes, .recordReferences, .conditionLogic kept] cs s =
        (([.toolingTypes maxDescribes, .recordReferences,
          .conditionLogic (saveChanges context.source cs kept)], ⟨packed, .ok ()⟩), s) := rfl
  have hlabels : Filter.preDeploy context packed (.labels saved) s =
      ((.labels (Labels.saves context.source packed saved), ⟨merged.1, merged.2⟩), s) := rfl
  have hrun := run_append hbefore
    (.labels saved :: [.packageDependencies, .issueTypes, .changeTimes])
  -- Only the filter of labels may fail; the filters behind it do nothing.
  cases hresult : merged.2 with
  | error e =>
    rw [hresult] at hlabels
    rw [run_cons_error hlabels] at hrun
    exact hrun
  | ok u =>
    rw [hresult] at hlabels
    rw [run_cons_ok hlabels] at hrun
    exact hrun

/-- What the filters do before a deploy does not depend on saved templates, and they fail before
they have saved changes of labels. -/
theorem preDeploy_builtInWith (context : FilterContext) (cs : List (Change Element)) :
    ∃ changes left result, (∀ e, result = .error e → changes = []) ∧
      ∀ (kept : SavedByType) (s : Session σ),
        preDeploy context (Filter.builtInWith maxDescribes kept []) cs s =
          ((Filter.builtInWith maxDescribes (saveChanges context.source cs kept) changes,
            ⟨left, result⟩), s) := by
  refine ⟨_, _, _, ?_, fun kept s =>
    preDeploy_builtInWith_eq maxDescribes context kept [] cs s⟩
  intro e he
  rw [Labels.saves, he]
  rfl

theorem onDeploy_builtInWith (kept : SavedByType) (changes cs : List (Change Element))
    (s : Session σ) :
    onDeploy (Filter.builtInWith maxDescribes kept changes) cs s =
      ((Filter.builtInWith maxDescribes [] [],
        ⟨restoreChanges kept (Labels.restore changes cs), .ok ()⟩), s) := rfl

end Pipeline

end ElementSync
