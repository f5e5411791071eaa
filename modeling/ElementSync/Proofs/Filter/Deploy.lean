import ElementSync.Filter.Pipeline
import ElementSync.Proofs.ConditionLogic.Restoring

/-!
# The built-in filters around a deploy

On changes without labels the built-in filters do not fail, call no client and touch nothing but
values of instances. With labels they may fail, for want of a container, and still call no client.
This holds of each filter and therefore of every pipeline of them.
-/

namespace ElementSync

namespace ConditionLogic

theorem outline_restoreRule (saved : SavedByType) (i : Instance Element) :
    (restoreRule saved i).outline = i.outline := by
  unfold restoreRule restore
  split
  · split <;> rfl
  · rfl

theorem outline_mapAfter {f : Instance Element → Instance Element}
    (hf : ∀ i, (f i).outline = i.outline) (c : Change Element) :
    (mapAfter f c).outline = c.outline := by
  cases c with
  | removal b => rfl
  | addition a =>
    cases a with
    | inst i => exact congrArg (fun j => Change.addition (Element.inst j)) (hf i)
    | _ => rfl
  | modification b a =>
    cases a with
    | inst i => exact congrArg (fun j => Change.modification b.outline (Element.inst j)) (hf i)
    | _ => rfl

theorem outlines_mapAfter {f : Instance Element → Instance Element}
    (hf : ∀ i, (f i).outline = i.outline) (cs : List (Change Element)) :
    (cs.map (mapAfter f)).map Change.outline = cs.map Change.outline := by
  rw [List.map_map]
  apply List.map_congr_left
  intro c _
  exact outline_mapAfter hf c

end ConditionLogic

namespace Labels

theorem isOf_outline (typeName : String) (e : Element) :
    isOf typeName e.outline = isOf typeName e := by
  cases e <;> rfl

theorem isOf_data_mapAfter {f : Instance Element → Instance Element}
    (hf : ∀ i, (f i).outline = i.outline) (typeName : String) (c : Change Element) :
    isOf typeName (ConditionLogic.mapAfter f c).data = isOf typeName c.data := by
  rw [← isOf_outline, ← Change.data_outline, ConditionLogic.outline_mapAfter hf,
    Change.data_outline, isOf_outline]

def Lacks (typeName : String) (cs : List (Change Element)) : Prop :=
  ∀ c ∈ cs, isOf typeName c.data = false

theorem Lacks.of_outlines {typeName : String} {cs cs' : List (Change Element)}
    (h : cs'.map Change.outline = cs.map Change.outline) (hcs : Lacks typeName cs) :
    Lacks typeName cs' := by
  apply Change.forall_of_outlines _ h hcs
  intro c
  rw [Change.data_outline, isOf_outline]

theorem filter_isLabelChange_eq_nil_iff {cs : List (Change Element)} :
    cs.filter isLabelChange = [] ↔ Lacks labelType cs := by
  rw [List.filter_eq_nil_iff]
  simp [Lacks, isLabelChange]

theorem filter_not_isLabelChange_of_lacks {cs : List (Change Element)} (h : Lacks labelType cs) :
    cs.filter (!isLabelChange ·) = cs :=
  List.filter_eq_self.2 fun c hc => by simpa [isLabelChange] using h c hc

/-- Without labels nothing is merged. Labels are merged into a container or, for want of its type,
lost. -/
theorem merge_cases (source : ElementSource) (cs : List (Change Element)) :
    (Lacks labelType cs ∧ merge source cs = (cs, .ok ())) ∨
      ¬ Lacks labelType cs ∧
        ((∃ type, knownType? source = some type ∧ merge source cs =
            (cs.filter (!isLabelChange ·) ++ [merged type (cs.filter isLabelChange)], .ok ())) ∨
          (knownType? source = none ∧
            merge source cs = (cs.filter (!isLabelChange ·), .error missingType))) := by
  by_cases h : Lacks labelType cs
  · have hnone := filter_isLabelChange_eq_nil_iff.2 h
    have hothers := filter_not_isLabelChange_of_lacks h
    exact .inl ⟨h, by simp [merge, hothers, hnone]⟩
  · have hsome : (cs.filter isLabelChange).isEmpty = false :=
      List.isEmpty_eq_false_iff.2 (mt filter_isLabelChange_eq_nil_iff.1 h)
    refine .inr ⟨h, ?_⟩
    cases htype : knownType? source with
    | none => exact .inr ⟨rfl, by simp [merge, hsome, htype]⟩
    | some type => exact .inl ⟨type, rfl, by simp [merge, hsome, htype]⟩

theorem merge_of_lacks (source : ElementSource) {cs : List (Change Element)}
    (h : Lacks labelType cs) : merge source cs = (cs, .ok ()) := by
  rcases merge_cases source cs with ⟨-, hmerge⟩ | ⟨hlabels, -⟩
  · exact hmerge
  · exact absurd h hlabels

theorem merge_of_known {source : ElementSource} (cs : List (Change Element))
    (h : (knownType? source).isSome) : ∃ left, merge source cs = (left, .ok ()) := by
  rcases merge_cases source cs with ⟨-, hmerge⟩ | ⟨-, ⟨type, -, hmerge⟩ | ⟨hnone, -⟩⟩
  · exact ⟨_, hmerge⟩
  · exact ⟨_, hmerge⟩
  · rw [hnone] at h
    cases h

theorem merge_result (source : ElementSource) (cs : List (Change Element)) :
    (merge source cs).2 = .ok () ∨ (merge source cs).2 = .error missingType := by
  rcases merge_cases source cs with ⟨-, hmerge⟩ | ⟨-, ⟨type, -, hmerge⟩ | ⟨-, hmerge⟩⟩
  · exact Or.inl (by rw [hmerge])
  · exact Or.inl (by rw [hmerge])
  · exact Or.inr (by rw [hmerge])

theorem restore_of_lacks (saved : List (Change Element)) {cs : List (Change Element)}
    (h : Lacks containerType cs) : restore saved cs = cs := by
  have hnone : cs.any isContainerChange = false :=
    List.any_eq_false.2 fun c hc => by simpa [isContainerChange] using h c hc
  simp [restore, hnone]

end Labels

namespace Filter
variable {σ : Type}

def isBuiltIn : Filter → Bool
  | idle => false
  | probe _ _ => false
  | _ => true

theorem isBuiltIn_of_mem_builtIn {maxDescribes : Nat} {f : Filter}
    (h : f ∈ builtIn maxDescribes) : f.isBuiltIn := by
  simp only [builtIn, List.mem_cons, List.not_mem_nil, or_false] at h
  rcases h with rfl | rfl | rfl | rfl | rfl | rfl | rfl <;> rfl

/-- A hook of a built-in filter that does not fail on changes with `P`: it leaves such changes
again, leaves the session alone, and the filter stays built in. -/
def Succeeds (hook : List (Change Element) → Filter →
      Wire σ (Filter × Step (List (Change Element)) Unit))
    (P : List (Change Element) → Prop) : Prop :=
  ∀ (f : Filter) (cs : List (Change Element)) (s : Session σ), f.isBuiltIn → P cs →
    ∃ f' cs', hook cs f s = ((f', ⟨cs', .ok ()⟩), s) ∧ f'.isBuiltIn ∧ P cs'

def Keeps (typeName : String) (outlines : List (Change Element)) (cs : List (Change Element)) :
    Prop :=
  Labels.Lacks typeName cs ∧ cs.map Change.outline = outlines

theorem Keeps.of_outlines {typeName : String} {outlines cs cs' : List (Change Element)}
    (hcs : Keeps typeName outlines cs) (h : cs'.map Change.outline = cs.map Change.outline) :
    Keeps typeName outlines cs' :=
  ⟨hcs.1.of_outlines h, h.trans hcs.2⟩

theorem preDeploy_succeeds_keeps (context : FilterContext) (outlines : List (Change Element)) :
    Succeeds (σ := σ) (Filter.preDeploy context) (Keeps Labels.labelType outlines) := by
  intro f cs s hf hcs
  cases f with
  | conditionLogic saved =>
    exact ⟨_, _, rfl, rfl, hcs.of_outlines
      (ConditionLogic.outlines_mapAfter
        (fun i => (ConditionLogic.packsInto_packRule _ i).outline) cs)⟩
  | labels saved =>
    unfold Filter.preDeploy
    rw [Labels.merge_of_lacks context.source hcs.1]
    exact ⟨_, cs, rfl, rfl, hcs⟩
  | idle => cases hf
  | probe label failing => cases hf
  | _ => exact ⟨_, cs, rfl, rfl, hcs⟩

theorem onDeploy_succeeds_keeps (outlines : List (Change Element)) :
    Succeeds (σ := σ) Filter.onDeploy (Keeps Labels.containerType outlines) := by
  intro f cs s hf hcs
  cases f with
  | conditionLogic saved =>
    exact ⟨_, _, rfl, rfl, hcs.of_outlines
      (ConditionLogic.outlines_mapAfter (ConditionLogic.outline_restoreRule saved) cs)⟩
  | labels saved =>
    refine ⟨_, _, rfl, rfl, ?_⟩
    rw [Labels.restore_of_lacks saved hcs.1]
    exact hcs
  | idle => cases hf
  | probe label failing => cases hf
  | _ => exact ⟨_, cs, rfl, rfl, hcs⟩

/-- Labels are merged unless the type of their container is missing. -/
theorem preDeploy_succeeds (context : FilterContext) :
    Succeeds (σ := σ) (Filter.preDeploy context) fun cs =>
      Labels.Lacks Labels.labelType cs ∨ (Labels.knownType? context.source).isSome := by
  intro f cs s hf hcs
  rcases hcs with hcs | hknown
  · obtain ⟨f', cs', hrun, hf', hkept⟩ :=
      preDeploy_succeeds_keeps context (cs.map Change.outline) f cs s hf ⟨hcs, rfl⟩
    exact ⟨f', cs', hrun, hf', Or.inl hkept.1⟩
  · cases f with
    | labels saved =>
      obtain ⟨left, hmerge⟩ := Labels.merge_of_known cs hknown
      unfold Filter.preDeploy
      rw [hmerge]
      exact ⟨_, left, rfl, rfl, Or.inr hknown⟩
    | idle => cases hf
    | probe label failing => cases hf
    | _ => exact ⟨_, _, rfl, rfl, Or.inr hknown⟩

theorem onDeploy_succeeds : Succeeds (σ := σ) Filter.onDeploy fun _ => True := by
  intro f cs s hf _
  cases f with
  | idle => cases hf
  | probe label failing => cases hf
  | _ => exact ⟨_, _, rfl, rfl, trivial⟩

/-- A hook of a built-in filter that fails with `e` if at all. In either case it leaves the session
alone, and the filter stays built in. -/
def MayFail (hook : List (Change Element) → Filter →
      Wire σ (Filter × Step (List (Change Element)) Unit)) (e : Failure) : Prop :=
  ∀ (f : Filter) (cs : List (Change Element)) (s : Session σ), f.isBuiltIn →
    ∃ f' cs' result, hook cs f s = ((f', ⟨cs', result⟩), s) ∧ f'.isBuiltIn ∧
      (result = .ok () ∨ result = .error e)

theorem preDeploy_mayFail (context : FilterContext) :
    MayFail (σ := σ) (Filter.preDeploy context) Labels.missingType := by
  intro f cs s hf
  cases f with
  | labels saved => exact ⟨_, _, _, rfl, rfl, Labels.merge_result context.source cs⟩
  | idle => cases hf
  | probe label failing => cases hf
  | _ => exact ⟨_, _, _, rfl, rfl, Or.inl rfl⟩

end Filter

namespace Pipeline
variable {σ : Type}

section
variable {hook : List (Change Element) → Filter →
  Wire σ (Filter × Step (List (Change Element)) Unit)}

theorem run_cons_ok {f f' : Filter} {cs left : List (Change Element)} {s s' : Session σ}
    (h : hook cs f s = ((f', ⟨left, .ok ()⟩), s')) (fs : List Filter) :
    run hook (f :: fs) cs s =
      ((f' :: (run hook fs left s').1.1, (run hook fs left s').1.2), (run hook fs left s').2) := by
  simp only [run, bind, StateT.bind, h]
  rfl

/-- Behind a filter that fails the others stay as they are. -/
theorem run_cons_error {f f' : Filter} {cs left : List (Change Element)} {s s' : Session σ}
    {e : Failure} (h : hook cs f s = ((f', ⟨left, .error e⟩), s')) (fs : List Filter) :
    run hook (f :: fs) cs s = ((f' :: fs, ⟨left, .error e⟩), s') := by
  simp only [run, bind, StateT.bind, h]
  rfl

/-- What one hook leaves is fit for the next. -/
theorem run_succeeds {P : List (Change Element) → Prop}
    (hhook : Filter.Succeeds hook P) (fs : List Filter) (cs : List (Change Element))
    (s : Session σ) (hfs : ∀ f ∈ fs, f.isBuiltIn) (hcs : P cs) :
    ∃ fs' cs', run hook fs cs s = ((fs', ⟨cs', .ok ()⟩), s) ∧ (∀ f ∈ fs', f.isBuiltIn) ∧
      P cs' := by
  induction fs generalizing cs with
  | nil => exact ⟨[], cs, rfl, by simp, hcs⟩
  | cons f fs ih =>
    obtain ⟨f', cs₁, hrun₁, hf', hcs₁⟩ := hhook f cs s (hfs f List.mem_cons_self) hcs
    obtain ⟨fs', cs₂, hrun₂, hfs', hcs₂⟩ :=
      ih cs₁ (fun g hg => hfs g (List.mem_cons_of_mem f hg)) hcs₁
    refine ⟨f' :: fs', cs₂, ?_, ?_, hcs₂⟩
    · rw [run_cons_ok hrun₁, hrun₂]
    · intro g hg
      rcases List.mem_cons.1 hg with rfl | hg
      · exact hf'
      · exact hfs' g hg

theorem run_mayFail {e : Failure} (hhook : Filter.MayFail hook e) (fs : List Filter)
    (cs : List (Change Element)) (s : Session σ) (hfs : ∀ f ∈ fs, f.isBuiltIn) :
    ∃ fs' cs' result, run hook fs cs s = ((fs', ⟨cs', result⟩), s) ∧
      (∀ f ∈ fs', f.isBuiltIn) ∧ (result = .ok () ∨ result = .error e) := by
  induction fs generalizing cs with
  | nil => exact ⟨[], cs, .ok (), rfl, by simp, Or.inl rfl⟩
  | cons f fs ih =>
    obtain ⟨hf, hfs⟩ := List.forall_mem_cons.1 hfs
    obtain ⟨f', cs₁, result, hfirst, hf', hok | hfails⟩ := hhook f cs s hf
    · subst hok
      obtain ⟨fs', cs₂, result, hrest, hfs', hresult⟩ := ih cs₁ hfs
      refine ⟨f' :: fs', cs₂, result, ?_, List.forall_mem_cons.2 ⟨hf', hfs'⟩, hresult⟩
      rw [run_cons_ok hfirst, hrest]
    · subst hfails
      exact ⟨f' :: fs, cs₁, .error e, run_cons_error hfirst fs,
        List.forall_mem_cons.2 ⟨hf', hfs⟩, Or.inr rfl⟩

end

theorem onDeploy_succeeds {P : List (Change Element) → Prop}
    (hhook : Filter.Succeeds (σ := σ) Filter.onDeploy P) {fs : List Filter}
    (cs : List (Change Element)) (s : Session σ) (hfs : ∀ f ∈ fs, f.isBuiltIn) (hcs : P cs) :
    ∃ fs' cs', onDeploy fs cs s = ((fs', ⟨cs', .ok ()⟩), s) ∧ (∀ f ∈ fs', f.isBuiltIn) ∧
      P cs' := by
  have hreverse : ∀ f ∈ fs.reverse, f.isBuiltIn := fun f hf => hfs f (List.mem_reverse.1 hf)
  obtain ⟨fs', cs', hrun, hfs', hkept⟩ := run_succeeds hhook fs.reverse cs s hreverse hcs
  refine ⟨fs'.reverse, cs', ?_, fun f hf => hfs' f (List.mem_reverse.1 hf), hkept⟩
  simp only [onDeploy, bind, StateT.bind, hrun]
  rfl

theorem preDeploy_run (context : FilterContext) {fs : List Filter} {cs : List (Change Element)}
    (s : Session σ) (hfs : ∀ f ∈ fs, f.isBuiltIn) (hcs : Labels.Lacks Labels.labelType cs) :
    ∃ fs' cs', preDeploy context fs cs s = ((fs', ⟨cs', .ok ()⟩), s) ∧
      (∀ f ∈ fs', f.isBuiltIn) ∧ cs'.map Change.outline = cs.map Change.outline := by
  obtain ⟨fs', cs', hrun, hfs', hkept⟩ :=
    run_succeeds (Filter.preDeploy_succeeds_keeps context _) fs cs s hfs ⟨hcs, rfl⟩
  exact ⟨fs', cs', hrun, hfs', hkept.2⟩

theorem onDeploy_run {fs : List Filter} {cs : List (Change Element)} (s : Session σ)
    (hfs : ∀ f ∈ fs, f.isBuiltIn) (hcs : Labels.Lacks Labels.containerType cs) :
    ∃ fs' cs', onDeploy fs cs s = ((fs', ⟨cs', .ok ()⟩), s) ∧
      (∀ f ∈ fs', f.isBuiltIn) ∧ cs'.map Change.outline = cs.map Change.outline := by
  obtain ⟨fs', cs', hrun, hfs', hkept⟩ :=
    onDeploy_succeeds (Filter.onDeploy_succeeds_keeps _) cs s hfs ⟨hcs, rfl⟩
  exact ⟨fs', cs', hrun, hfs', hkept.2⟩

end Pipeline

end ElementSync
