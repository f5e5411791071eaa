import ElementSync.Adapter
import ElementSync.Proofs.GraphHistory
import ElementSync.Proofs.Reference.Weak
import Mathlib.Data.List.Induction

/-!
# Elements without their missing references

Handlers work on the elements in turn, and each works on what those before it left. What they give
back together are the elements in which one of them reports a missing target, each once and without
what is reported. After that there is nothing left to fix.
-/

namespace ElementSync

namespace ElementGraph
variable {g : ElementGraph} {d e : Element}

theorem mem_elements_iff (hids : g.ids.Nodup) : d ∈ g.elements ↔ g.stored? d.id = some d :=
  ⟨stored?_of_mem hids, fun h => (mem_elements_of_stored? h).1⟩

theorem nodup_ids_upsert (hids : g.ids.Nodup) (e : Element) : (g.upsert e).ids.Nodup := by
  by_cases he : e.id ∈ g.ids
  · rwa [ids_upsert_of_mem he]
  · rw [upsert_of_notMem he]
    exact Element.nodup_ids_append.2
      ⟨hids, List.nodup_singleton _, List.forall_mem_singleton.2 he⟩

theorem mem_elements_upsert (hids : g.ids.Nodup) :
    d ∈ (g.upsert e).elements ↔ d = e ∨ d ∈ g.elements ∧ d.id ≠ e.id := by
  rw [mem_elements_iff (nodup_ids_upsert hids e), stored?_upsert, mem_elements_iff hids]
  by_cases hid : d.id = e.id
  · rw [if_pos hid, Option.some.injEq, eq_comm, or_iff_left fun h => h.2 hid]
  · have hne : d ≠ e := fun h => hid (congrArg Element.id h)
    rw [if_neg hid, or_iff_right hne, and_iff_left hid]

/-- Elements with distinct ids come in, in the place of those that have their ids. -/
theorem foldl_upsert {es : List Element} (hids : g.ids.Nodup) (hes : (es.map Element.id).Nodup) :
    (es.foldl upsert g).ids.Nodup ∧ ∀ d, d ∈ (es.foldl upsert g).elements ↔
      d ∈ es ∨ d ∈ g.elements ∧ d.id ∉ es.map Element.id := by
  induction es generalizing g with
  | nil => exact ⟨hids, by simp⟩
  | cons e es ih =>
    obtain ⟨he, hes⟩ := List.nodup_cons.1 hes
    obtain ⟨hnodup, hmem⟩ := ih (nodup_ids_upsert hids e) hes
    refine ⟨hnodup, fun d => ?_⟩
    have hfirst : d = e → d.id ∉ es.map Element.id := by
      rintro rfl
      exact he
    rw [List.foldl_cons, hmem, mem_elements_upsert hids, List.map_cons, List.mem_cons,
      List.mem_cons, not_or]
    tauto

end ElementGraph

namespace Fixes
variable {source : ElementSource} {ws : List WeakField} {es : List Element}
  {state : List Element × Fixes}

theorem replace_append {before after : List Element} {d e : Element}
    (hbefore : ∀ c ∈ before, c.id ≠ e.id) (hd : d.id = e.id) :
    replace (before ++ d :: after) e = before ++ e :: after := by
  induction before with
  | nil => rw [List.nil_append, replace, if_pos hd, List.nil_append]
  | cons c before ih =>
    have hc := hbefore c List.mem_cons_self
    rw [List.cons_append, replace, if_neg hc,
      ih fun b hb => hbefore b (List.mem_cons_of_mem c hb), List.cons_append]

/-- Replacing what a step changes is the step on every element. -/
theorem foldl_replace_filterMap {f : Element → Option Element}
    (hf : ∀ e d, f e = some d → d.id = e.id) (done : List Element)
    (hids : ((done ++ es).map Element.id).Nodup) :
    (es.filterMap f).foldl replace (done ++ es) = done ++ es.map fun e => (f e).getD e := by
  induction es generalizing done with
  | nil => rfl
  | cons e es ih =>
    have hnew := (Element.nodup_ids_append.1 hids).2.2 e List.mem_cons_self
    cases hfe : f e with
    | none =>
      rw [List.append_cons] at hids
      rw [List.filterMap_cons_none hfe, List.append_cons, ih _ hids, List.map_cons, hfe,
        List.append_assoc]
      rfl
    | some d =>
      have hid := hf e d hfe
      have hdone : ∀ c ∈ done, c.id ≠ d.id := by
        intro c hc h
        exact hnew (hid ▸ h ▸ List.mem_map_of_mem hc)
      have hids' : (((done ++ [d]) ++ es).map Element.id).Nodup := by
        simpa [hid] using hids
      rw [List.filterMap_cons_some hfe, List.foldl_cons, replace_append hdone hid.symm,
        List.append_cons, ih _ hids', List.map_cons, hfe, List.append_assoc]
      rfl

theorem nodup_ids_filterMap {f : Element → Option Element}
    (hf : ∀ e d, f e = some d → d.id = e.id) (hids : (es.map Element.id).Nodup) :
    ((es.filterMap f).map Element.id).Nodup := by
  refine hids.sublist ?_
  clear hids
  induction es with
  | nil => exact .slnil
  | cons e es ih =>
    cases hfe : f e with
    | none =>
      rw [List.filterMap_cons_none hfe]
      exact ih.cons _
    | some d =>
      rw [List.filterMap_cons_some hfe, List.map_cons, List.map_cons, hf e d hfe]
      exact ih.cons_cons _

theorem fixAll_concat (source : ElementSource) (ws : List WeakField) (w : WeakField) (e : Element) :
    WeakField.fixAll source (ws ++ [w]) e =
      (w.fix? source (WeakField.fixAll source ws e)).getD (WeakField.fixAll source ws e) := by
  rw [WeakField.fixAll, List.foldl_append]
  rfl

theorem map_id_fixAll (source : ElementSource) (ws : List WeakField) (es : List Element) :
    (es.map (WeakField.fixAll source ws)).map Element.id = es.map Element.id := by
  rw [List.map_map]
  exact List.map_congr_left fun e _ => WeakField.id_fixAll source ws e

/-- What a handler finds something in comes from the elements that others have left. -/
theorem mem_found_iff {w : WeakField} {d : Element} :
    d ∈ (es.map (WeakField.fixAll source ws)).filterMap (w.fix? source) ↔
      ∃ e ∈ es, w.fix? source (WeakField.fixAll source ws e) = some d := by
  rw [List.mem_filterMap]
  constructor
  · rintro ⟨c, hc, hfix⟩
    obtain ⟨e, he, rfl⟩ := List.mem_map.1 hc
    exact ⟨e, he, hfix⟩
  · rintro ⟨e, he, hfix⟩
    exact ⟨_, List.mem_map_of_mem he, hfix⟩

theorem id_mem_found_iff {w : WeakField} {e : Element} (hids : (es.map Element.id).Nodup)
    (he : e ∈ es) :
    e.id ∈ ((es.map (WeakField.fixAll source ws)).filterMap (w.fix? source)).map Element.id ↔
      (w.fix? source (WeakField.fixAll source ws e)).isSome := by
  have hid : ∀ c d, w.fix? source (WeakField.fixAll source ws c) = some d → d.id = c.id :=
    fun c d hfix => (WeakField.id_of_fix? hfix).trans (WeakField.id_fixAll source ws c)
  rw [List.mem_map, Option.isSome_iff_exists]
  constructor
  · rintro ⟨d, hd, hde⟩
    obtain ⟨c, hc, hfix⟩ := mem_found_iff.1 hd
    obtain rfl := List.inj_on_of_nodup_map hids hc he ((hid c d hfix).symm.trans hde)
    exact ⟨d, hfix⟩
  · rintro ⟨d, hfix⟩
    exact ⟨d, mem_found_iff.2 ⟨e, he, hfix⟩, hid e d hfix⟩

structure AfterAll (source : ElementSource) (ws : List WeakField) (es : List Element)
    (state : List Element × Fixes) : Prop where
  left : state.1 = es.map (WeakField.fixAll source ws)
  nodup : (state.2.fixed.map Element.id).Nodup
  mem_fixed : ∀ d, d ∈ state.2.fixed ↔
    ∃ e ∈ es, (∃ w ∈ ws, (w.fix? source e).isSome) ∧ d = WeakField.fixAll source ws e

theorem AfterAll.start (source : ElementSource) (es : List Element) :
    AfterAll source [] es (es, {}) :=
  ⟨(List.map_id' es).symm, List.nodup_nil, by simp⟩

theorem AfterAll.step (hids : (es.map Element.id).Nodup) (h : AfterAll source ws es state)
    (w : WeakField) : AfterAll source (ws ++ [w]) es (step source state w) := by
  obtain ⟨current, fixes⟩ := state
  obtain rfl : current = es.map (WeakField.fixAll source ws) := h.left
  have hcurrent : ((es.map (WeakField.fixAll source ws)).map Element.id).Nodup := by
    rwa [map_id_fixAll]
  have hid : ∀ e d, w.fix? source e = some d → d.id = e.id := fun e d => WeakField.id_of_fix?
  obtain ⟨hnodup, hmem⟩ :=
    ElementGraph.foldl_upsert (g := ⟨fixes.fixed⟩) h.nodup (nodup_ids_filterMap hid hcurrent)
  refine ⟨?_, hnodup, fun d => ?_⟩
  · refine (foldl_replace_filterMap hid [] hcurrent).trans ?_
    rw [List.nil_append, List.map_map]
    exact List.map_congr_left fun e _ => (fixAll_concat source ws w e).symm
  · refine (hmem d).trans ((or_congr mem_found_iff (and_congr_left' (h.mem_fixed d))).trans ?_)
    constructor
    · rintro (⟨e, he, hfix⟩ | ⟨⟨e, he, ⟨w', hw', hsome⟩, rfl⟩, hnone⟩)
      · -- the handler finds something now, so it found it at the start
        have hsome := WeakField.isSome_fix?_fixAll_iff.1 (Option.isSome_of_eq_some hfix)
        refine ⟨e, he, ⟨w, List.mem_concat_self, hsome.1⟩, ?_⟩
        rw [fixAll_concat, hfix, Option.getD_some]
      · refine ⟨e, he, ⟨w', List.mem_append_left _ hw', hsome⟩, ?_⟩
        rw [WeakField.id_fixAll, id_mem_found_iff hids he, Option.not_isSome_iff_eq_none] at hnone
        rw [fixAll_concat, hnone, Option.getD_none]
    · rintro ⟨e, he, ⟨w', hw', hsome⟩, rfl⟩
      cases hfix : w.fix? source (WeakField.fixAll source ws e) with
      | some d =>
        refine .inl ⟨e, he, ?_⟩
        rw [fixAll_concat, hfix, Option.getD_some]
      | none =>
        have hnone : ¬ (w.fix? source (WeakField.fixAll source ws e)).isSome := by
          rw [hfix]
          exact Bool.false_ne_true
        rw [fixAll_concat, hfix, Option.getD_none, WeakField.id_fixAll, id_mem_found_iff hids he]
        refine .inr ⟨⟨e, he, ?_, rfl⟩, hnone⟩
        -- a handler that finds nothing now found nothing, or it has come before
        by_cases hw : w' ∈ ws
        · exact ⟨w', hw, hsome⟩
        · obtain rfl := List.mem_singleton.1 ((List.mem_append.1 hw').resolve_left hw)
          exact absurd (WeakField.isSome_fix?_fixAll_iff.2 ⟨hsome, hw⟩) hnone

theorem afterAll_foldl (hids : (es.map Element.id).Nodup) (source : ElementSource)
    (ws : List WeakField) : AfterAll source ws es (ws.foldl (step source) (es, {})) := by
  induction ws using List.reverseRecOn with
  | nil => exact .start source es
  | append_singleton ws w ih =>
    rw [List.foldl_concat]
    exact ih.step hids w

theorem step_of_fix?_eq_none {w : WeakField} (h : ∀ e ∈ state.1, w.fix? source e = none) :
    step source state w = state := by
  have hfixed : state.1.filterMap (w.fix? source) = [] := List.filterMap_eq_nil_iff.2 h
  have hfindings : state.1.filter (fun e => (w.fix? source e).isSome) = [] := by
    refine List.filter_eq_nil_iff.2 fun e he => ?_
    rw [h e he]
    exact Bool.false_ne_true
  rw [step, WeakField.fixes, hfixed, hfindings]
  simp

/-- Handlers that find nothing leave everything as it is. -/
theorem foldl_step_of_fix?_eq_none (h : ∀ w ∈ ws, ∀ e ∈ state.1, w.fix? source e = none) :
    ws.foldl (step source) state = state := by
  induction ws with
  | nil => rfl
  | cons w ws ih =>
    rw [List.foldl_cons, step_of_fix?_eq_none (h w List.mem_cons_self)]
    exact ih fun w' hw' => h w' (List.mem_cons_of_mem w hw')

/-- The elements that come back, put into the place of those they came from. -/
def substitute (fixes : Fixes) (es : List Element) : List Element :=
  es.map fun e => (fixes.fixed.find? fun d => d.id = e.id).getD e

theorem AfterAll.substitute_eq (hids : (es.map Element.id).Nodup)
    (h : AfterAll source ws es state) :
    state.2.substitute es = es.map (WeakField.fixAll source ws) := by
  refine List.map_congr_left fun e he => ?_
  cases hfind : state.2.fixed.find? (fun d => d.id = e.id) with
  | none =>
    have hnone : ∀ w ∈ ws, w.fix? source e = none := by
      intro w hw
      by_contra hsome
      have hd := (h.mem_fixed _).2 ⟨e, he, ⟨w, hw, Option.isSome_iff_ne_none.2 hsome⟩, rfl⟩
      exact List.find?_eq_none.1 hfind _ hd (by simp)
    rw [Option.getD_none, WeakField.fixAll_of_fix?_eq_none hnone]
  | some d =>
    obtain ⟨e', he', -, rfl⟩ := (h.mem_fixed d).1 (List.mem_of_find?_eq_some hfind)
    have hid : e'.id = e.id := by simpa using List.find?_some hfind
    rw [Option.getD_some, List.inj_on_of_nodup_map hids he' he hid]

/-- After the handlers have come once, they find nothing. -/
theorem ofElements_fixAll (source : ElementSource) (ws : List WeakField) (es : List Element) :
    ofElements source ws (es.map (WeakField.fixAll source ws)) = {} := by
  rw [ofElements, foldl_step_of_fix?_eq_none]
  intro w hw d hd
  obtain ⟨e, -, rfl⟩ := List.mem_map.1 hd
  refine Option.not_isSome_iff_eq_none.1 fun hsome => ?_
  exact (WeakField.isSome_fix?_fixAll_iff.1 hsome).2 hw

end Fixes

namespace Adapter
variable {es : List Element}

/-- The elements that come back are those in which a handler reports a missing target. Each is there
once and is as it was, but for the items that are reported. With them put in place nothing is left
to fix. -/
theorem fixElements_drops_missing (a : Adapter) (hids : (es.map Element.id).Nodup) :
    let fixes := a.fixElements es
    let missing := WeakField.isReported a.source a.weakFields es
    (fixes.fixed.map Element.id).Nodup ∧
    (∀ e ∈ es, e.id ∈ fixes.fixed.map Element.id ↔
      ∃ place, place.topLevel.1 = e.id ∧ missing place) ∧
    (∀ d ∈ fixes.fixed, ∃ i, .inst i ∈ es ∧ ∃ vs, d = .inst { i with value := vs } ∧
      Assoc.keys vs = Assoc.keys i.value ∧
      ∀ key, vs.lookup key = (i.get? key).map fun v =>
        v.withoutItems fun n => missing (i.id.nest [key, toString n])) ∧
    a.fixElements (fixes.substitute es) = {} := by
  intro fixes missing
  have h := Fixes.afterAll_foldl hids a.source a.weakFields
  refine ⟨h.nodup, fun e he => ?_, fun d hd => ?_, ?_⟩
  · rw [← WeakField.exists_isSome_fix?_iff hids he, List.mem_map]
    constructor
    · rintro ⟨d, hd, hde⟩
      obtain ⟨e', he', hsome, rfl⟩ := (h.mem_fixed d).1 hd
      rw [WeakField.id_fixAll] at hde
      rwa [← List.inj_on_of_nodup_map hids he' he hde]
    · intro hsome
      exact ⟨_, (h.mem_fixed _).2 ⟨e, he, hsome, rfl⟩, WeakField.id_fixAll ..⟩
  · obtain ⟨e, he, ⟨w, -, hsome⟩, rfl⟩ := (h.mem_fixed d).1 hd
    cases e with
    | inst i =>
      obtain ⟨j, hfix, hj⟩ := WeakField.exists_clears a.source a.weakFields i
      refine ⟨i, he, j.value, hfix.trans (congrArg Element.inst hj.eq), hj.keys, fun key => ?_⟩
      refine (hj.get? key).trans ?_
      cases hv : i.get? key with
      | none => rfl
      | some v =>
        rw [Option.map_some, Option.map_some, WeakField.withoutItems_isReported hids he hv]
    | _ =>
      rw [WeakField.fix?_of_inst?_eq_none rfl] at hsome
      cases hsome
  · have hinput : fixes.substitute es = es.map (WeakField.fixAll a.source a.weakFields) :=
      h.substitute_eq hids
    rw [hinput]
    exact Fixes.ofElements_fixAll ..

def knowingBugs : Adapter :=
  { ofProfile {} {} with
    weakFields := [issueTypesOfSchemes, ⟨IssueTypes.schemeType, "hidden"⟩, issueTypesOfSchemes]
    source := ElementGraph.source
      ⟨[.inst { name := "Bug", type := { id := .type "jira" "IssueType" } }]⟩ }

def issueType (name : String) : Value Element :=
  .reference { target := .inst "jira" "IssueType" name }

def kanban : Instance Element :=
  { name := "Kanban"
    type := { id := .type "jira" IssueTypes.schemeType }
    value :=
      [("issueTypes",
          .sequence [issueType "Epic", issueType "Bug", .text "any", issueType "Story"]),
       ("default", issueType "Epic"), ("hidden", .sequence [issueType "Story"])] }

/-- A scheme loses two of its issue types and what it hides, but not its default. -/
theorem fixElements_drops_missing_kanban :
    let es := [.inst kanban, .objectType kanban.type]
    (es.map Element.id).Nodup ∧
    ∃ vs, .inst { kanban with value := vs } ∈ (knowingBugs.fixElements es).fixed ∧
      vs.lookup "issueTypes" = some (.sequence [issueType "Bug", .text "any"]) ∧
      vs.lookup "default" = some (issueType "Epic") ∧
      vs.lookup "hidden" = some (.sequence []) ∧
      knowingBugs.fixElements ((knowingBugs.fixElements es).substitute es) = {} := by
  intro es
  have hids : (es.map Element.id).Nodup := by decide
  obtain ⟨-, hfixed, hvalues, hagain⟩ := knowingBugs.fixElements_drops_missing hids
  have hkanban : (Element.inst kanban).id ∈ (knowingBugs.fixElements es).fixed.map Element.id := by
    refine (hfixed _ List.mem_cons_self).2 ⟨kanban.id.nest ["issueTypes", "3"], by decide, ?_⟩
    decide +kernel
  obtain ⟨d, hd, hid⟩ := List.mem_map.1 hkanban
  obtain ⟨i, hi, vs, rfl, -, hlookup⟩ := hvalues d hd
  obtain rfl : i = kanban := WeakField.inst_eq_of_id_eq hids hi List.mem_cons_self hid
  refine ⟨hids, vs, hd, (hlookup _).trans ?_, (hlookup _).trans ?_, (hlookup _).trans ?_, hagain⟩
  · rfl
  · rfl
  · rfl

end Adapter

end ElementSync
