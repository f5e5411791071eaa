import ElementSync.Proofs.Filter.Deploy

/-!
# Filters undo what they did

Before a deploy of changes without labels the built-in filters pack logic and do nothing else. If
they had nothing saved, they take it back after the deploy: a change that was applied comes out as
it was before the filters, with what the deploy has written into it.
-/

namespace ElementSync

open ConditionLogic

theorem Change.outline_write (c : Change Element) (es : Values Element) :
    (c.write es).outline = c.outline := by
  have hstate : ∀ e : Element, (e.write es).outline = e.outline := by
    intro e
    cases e with
    | inst i => exact congrArg Element.inst (i.outline_write es)
    | _ => rfl
  cases c with
  | addition a => exact congrArg Change.addition (hstate a)
  | removal b => exact congrArg Change.removal (hstate b)
  | modification b a => exact congrArg (Change.modification b.outline) (hstate a)

def Filter.SavesNothing : Filter → Prop
  | conditionLogic saved => saved = []
  | labels saved => saved = []
  | _ => True

theorem Filter.savesNothing_of_mem_builtIn {maxDescribes : Nat} {f : Filter}
    (h : f ∈ builtIn maxDescribes) : f.SavesNothing := by
  simp only [builtIn, List.mem_cons, List.not_mem_nil, or_false] at h
  rcases h with rfl | rfl | rfl | rfl | rfl | rfl | rfl <;> trivial

namespace Pipeline
variable {σ : Type}

theorem run_append {hook : List (Change Element) → Filter →
      Wire σ (Filter × Step (List (Change Element)) Unit)} {fs fs' : List Filter}
    {cs cs' : List (Change Element)} {s s' : Session σ}
    (h : run hook fs cs s = ((fs', ⟨cs', .ok ()⟩), s')) (gs : List Filter) :
    run hook (fs ++ gs) cs s =
      ((fs' ++ (run hook gs cs' s').1.1, (run hook gs cs' s').1.2), (run hook gs cs' s').2) := by
  induction fs generalizing fs' cs s with
  | nil =>
    cases h
    rfl
  | cons f fs ih =>
    rcases hfirst : hook cs f s with ⟨⟨f', ⟨left, result⟩⟩, s₁⟩
    simp only [List.cons_append, run, bind, StateT.bind, hfirst] at h ⊢
    cases result with
    | error e => cases h
    | ok u =>
      cases u
      rcases hrest : run hook fs left s₁ with ⟨⟨fs₁, ⟨left₁, result₁⟩⟩, s₂⟩
      simp only [StateT.bind, bind, hrest] at h ⊢
      cases h
      rw [ih hrest]
      rfl

/-- A change of the list, and what the deploy has written into it. -/
def IsReportOf (cs : List (Change Element)) (r : Change Element × Values Element) : Prop :=
  r.1 ∈ cs ∧ ∀ key ∈ Assoc.keys r.2, key ∉ logicFields

/-- After a deploy the filters take back what `h` has done to the changes. -/
def TakesBack (σ : Type) (h : Instance Element → Instance Element) (cs : List (Change Element))
    (fs : List Filter) : Prop :=
  ∀ reports : List (Change Element × Values Element), (∀ r ∈ reports, IsReportOf cs r) →
    ∀ s : Session σ, ∃ fs', run Filter.onDeploy fs.reverse
      (reports.map fun r => (mapAfter h r.1).write r.2) s =
        ((fs', ⟨reports.map fun r => r.1.write r.2, .ok ()⟩), s)

/-- The filters `fs` apply `h` to the changes and go on as `fs'`. -/
structure Packs (σ : Type) (context : FilterContext) (cs : List (Change Element))
    (fs fs' : List Filter) (h : Instance Element → Instance Element) : Prop where
  packs : ∀ i : Instance Element, i.PacksInto (h i)
  isBuiltIn : ∀ f ∈ fs', f.isBuiltIn
  preDeploy_eq : ∀ s : Session σ,
    preDeploy context fs cs s = ((fs', ⟨cs.map (mapAfter h), .ok ()⟩), s)
  takesBack : (∀ f ∈ fs, f.SavesNothing) → (cs.map Change.id).Nodup →
    Labels.Lacks Labels.containerType cs → TakesBack σ h cs fs'

namespace Packs
variable {context : FilterContext} {cs : List (Change Element)} {fs fs' gs gs' : List Filter}
  {h h' : Instance Element → Instance Element}

theorem outlines (hpacks : Packs σ context cs fs fs' h) :
    (cs.map (mapAfter h)).map Change.outline = cs.map Change.outline :=
  outlines_mapAfter (fun i => (hpacks.packs i).outline) cs

theorem nil (context : FilterContext) (cs : List (Change Element)) :
    Packs σ context cs [] [] fun i => i where
  packs := Instance.PacksInto.refl
  isBuiltIn := by simp
  preDeploy_eq := by
    intro s
    rw [List.map_congr_left fun c _ => mapAfter_id c, List.map_id']
    rfl
  takesBack := by
    intro _ _ _ reports _ s
    refine ⟨[], ?_⟩
    simp only [mapAfter_id]
    rfl

/-- The filters that come later undo their part first. -/
theorem append (hfirst : Packs σ context cs fs fs' h)
    (hrest : Packs σ context (cs.map (mapAfter h)) gs gs' h') :
    Packs σ context cs (fs ++ gs) (fs' ++ gs') fun i => h' (h i) where
  packs i := (hfirst.packs i).trans (hrest.packs (h i))
  isBuiltIn := List.forall_mem_append.2 ⟨hfirst.isBuiltIn, hrest.isBuiltIn⟩
  preDeploy_eq := by
    intro s
    have hrun := run_append (hfirst.preDeploy_eq s) gs
    have hsecond : run (Filter.preDeploy context) gs (cs.map (mapAfter h)) s = _ :=
      hrest.preDeploy_eq s
    rw [hsecond] at hrun
    simp only [List.map_map, Function.comp_def, mapAfter_comp] at hrun
    exact hrun
  takesBack := by
    intro hsaved hids hlacks reports hreports s
    obtain ⟨hsaved₁, hsaved₂⟩ := List.forall_mem_append.1 hsaved
    have hids' : ((cs.map (mapAfter h)).map Change.id).Nodup := by
      rwa [Change.map_eq_of_outlines Change.id_outline hfirst.outlines]
    have hlacks' := Labels.Lacks.of_outlines hfirst.outlines hlacks
    have hpacked : ∀ r ∈ reports.map fun r => (mapAfter h r.1, r.2),
        IsReportOf (cs.map (mapAfter h)) r := by
      intro r hr
      obtain ⟨report, hreport, rfl⟩ := List.mem_map.1 hr
      obtain ⟨hmem, hkeys⟩ := hreports report hreport
      exact ⟨List.mem_map_of_mem hmem, hkeys⟩
    obtain ⟨fs₁, hrun₁⟩ := hrest.takesBack hsaved₂ hids' hlacks' _ hpacked s
    obtain ⟨fs₂, hrun₂⟩ := hfirst.takesBack hsaved₁ hids hlacks reports hreports s
    simp only [List.map_map, Function.comp_def, mapAfter_comp] at hrun₁
    refine ⟨fs₁ ++ fs₂, ?_⟩
    rw [List.reverse_append, run_append hrun₁ fs'.reverse, hrun₂]

/-- A filter that leaves changes without labels as they are, now and after the deploy. -/
theorem of_idle {f f' : Filter} (hf' : f'.isBuiltIn)
    (hpre : ∀ s : Session σ, f.preDeploy context cs s = ((f', ⟨cs, .ok ()⟩), s))
    (hpost : ∀ (cs : List (Change Element)) (s : Session σ),
      Labels.Lacks Labels.containerType cs →
      ∃ f'', f'.onDeploy cs s = ((f'', ⟨cs, .ok ()⟩), s)) :
    Packs σ context cs [f] [f'] fun i => i where
  packs := Instance.PacksInto.refl
  isBuiltIn := by simpa using hf'
  preDeploy_eq := by
    intro s
    rw [List.map_congr_left fun c _ => mapAfter_id c, List.map_id']
    simp only [preDeploy, run, bind, StateT.bind, hpre]
    rfl
  takesBack := by
    intro _ _ hlacks reports hreports s
    have hlacks' : Labels.Lacks Labels.containerType (reports.map fun r => r.1.write r.2) := by
      intro c hc
      obtain ⟨r, hr, rfl⟩ := List.mem_map.1 hc
      rw [← Labels.isOf_outline, ← Change.data_outline, Change.outline_write, Change.data_outline,
        Labels.isOf_outline]
      exact hlacks r.1 (hreports r hr).1
    obtain ⟨f'', hrun⟩ := hpost _ s hlacks'
    refine ⟨[f''], ?_⟩
    simp only [List.reverse_singleton, mapAfter_id, run, bind, StateT.bind, hrun]
    rfl

theorem singleton (context : FilterContext) {f : Filter} (hf : f.isBuiltIn)
    (hcs : Labels.Lacks Labels.labelType cs) : ∃ f' h, Packs σ context cs [f] [f'] h := by
  cases f with
  | conditionLogic saved =>
    refine ⟨.conditionLogic (saveChanges context.source cs saved),
      packRule (contextOf context.source cs), ?_⟩
    constructor
    case packs => exact packsInto_packRule _
    case isBuiltIn => simp [Filter.isBuiltIn]
    case preDeploy_eq =>
      intro s
      rfl
    case takesBack =>
      intro hsaved hids _ reports hreports s
      have hnone : saved = [] := hsaved _ List.mem_cons_self
      subst hnone
      refine ⟨[.conditionLogic []], ?_⟩
      rw [← restoreChanges_packed context.source hids hreports]
      rfl
  | labels saved =>
    refine ⟨.labels saved, fun i => i, of_idle rfl ?_ ?_⟩
    · intro s
      unfold Filter.preDeploy
      rw [Labels.merge_of_lacks context.source hcs]
      rw [Labels.filter_isLabelChange_eq_nil_iff.2 hcs]
      rfl
    · intro ds s hds
      have hkept := Labels.restore_of_lacks saved hds
      refine ⟨.labels [], ?_⟩
      simp only [Filter.onDeploy, hkept]
      rfl
  | idle => cases hf
  | probe label failing => cases hf
  | _ => exact ⟨_, _, of_idle hf (fun _ => rfl) fun _ _ _ => ⟨_, rfl⟩⟩

end Packs

/-- So do all of them, one after the other. -/
theorem exists_packs (context : FilterContext) {fs : List Filter} {cs : List (Change Element)}
    (hfs : ∀ f ∈ fs, f.isBuiltIn) (hcs : Labels.Lacks Labels.labelType cs) :
    ∃ fs' h, Packs σ context cs fs fs' h := by
  induction fs generalizing cs with
  | nil => exact ⟨[], _, Packs.nil context cs⟩
  | cons f fs ih =>
    obtain ⟨f', h₁, hfirst⟩ := Packs.singleton context (hfs f List.mem_cons_self) hcs
    obtain ⟨fs', h₂, hrest⟩ := ih (fun g hg => hfs g (List.mem_cons_of_mem f hg))
      (hcs.of_outlines hfirst.outlines)
    exact ⟨f' :: fs', _, hfirst.append hrest⟩

end Pipeline

end ElementSync
