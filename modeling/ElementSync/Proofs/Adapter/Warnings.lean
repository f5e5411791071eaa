import ElementSync.Proofs.Adapter.Fixes
import ElementSync.Proofs.Identified

/-!
# Warnings about dropped references

Each handler warns about the elements from which it drops references. Later handlers see the
elements that earlier ones have left, but in these each finds what it would have found at the start,
unless the same handler has come before. So an element has one warning for each of its fields that
loses references, and not one for all of them.
-/

namespace ElementSync

namespace WeakField
variable {source : ElementSource} {w : WeakField} {ws : List WeakField} {e : Element}

def reporting (source : ElementSource) (ws : List WeakField) (e : Element) : List WeakField :=
  ws.eraseDups.filter fun w => (w.occurrences [e]).any fun o => (source o.target).isNone

theorem any_occurrences_singleton (source : ElementSource) (w : WeakField) (e : Element) :
    ((w.occurrences [e]).any fun o => (source o.target).isNone) = (w.fix? source e).isSome := by
  rw [Bool.eq_iff_iff, List.any_eq_true]
  simp only [mem_occurrences_iff, List.mem_singleton, Option.isNone_iff_eq_none]
  constructor
  · rintro ⟨o, ⟨i, rfl, htype, vs, hv, n, r, hr, rfl⟩, hsource⟩
    refine isSome_fix?_inst_iff.2 ⟨htype, vs, hv, .reference r, List.mem_of_getElem? hr, ?_⟩
    exact not_present_iff.2 ⟨r, rfl, hsource⟩
  · intro hsome
    cases e with
    | inst i =>
      obtain ⟨htype, vs, hv, v, hmem, hmissing⟩ := isSome_fix?_inst_iff.1 hsome
      obtain ⟨r, rfl, hsource⟩ := not_present_iff.1 hmissing
      obtain ⟨n, hn⟩ := List.mem_iff_getElem?.1 hmem
      exact ⟨_, ⟨i, rfl, htype, vs, hv, n, r, hn, rfl⟩, hsource⟩
    | _ =>
      rw [fix?_of_inst?_eq_none rfl] at hsome
      cases hsome

theorem reporting_eq (source : ElementSource) (ws : List WeakField) (e : Element) :
    reporting source ws e = ws.eraseDups.filter fun w => (w.fix? source e).isSome :=
  List.filter_congr fun w _ => any_occurrences_singleton source w e

theorem mem_reporting_iff :
    w ∈ reporting source ws e ↔ w ∈ ws ∧ (w.fix? source e).isSome := by
  rw [reporting_eq, List.mem_filter, List.mem_eraseDups]

@[simp] theorem warning_fixAll (source : ElementSource) (ws : List WeakField) (w : WeakField)
    (e : Element) : w.warning (fixAll source ws e) = w.warning e := by
  rw [warning, warning, id_fixAll]

/-- The second time the same handler comes it has nothing to warn about. -/
theorem findings_fixes_fixAll (source : ElementSource) (ws : List WeakField) (w : WeakField)
    (es : List Element) : (w.fixes source (es.map (fixAll source ws))).findings =
      if w ∈ ws then [] else (w.fixes source es).findings := by
  have hfinds : ∀ e, (w.fix? source (fixAll source ws e)).isSome =
      (decide (w ∉ ws) && (w.fix? source e).isSome) := by
    intro e
    rw [Bool.eq_iff_iff, isSome_fix?_fixAll_iff]
    simp [and_comm]
  simp only [fixes, List.filter_map, List.map_map, Function.comp_def, hfinds, warning_fixAll]
  split
  case isTrue hw => simp [hw]
  case isFalse hw => simp [hw]

end WeakField

namespace Fixes
variable {es : List Element}

/-- Handler by handler, the warnings are those that it would give if it came alone. -/
theorem findings_foldl (hids : (es.map Element.id).Nodup) (source : ElementSource)
    (ws : List WeakField) : (ws.foldl (step source) (es, {})).2.findings =
      ws.eraseDups.flatMap fun w => (w.fixes source es).findings := by
  induction ws using List.reverseRecOn with
  | nil => rfl
  | append_singleton ws w ih =>
    have hleft := (afterAll_foldl hids source ws).left
    rw [List.foldl_concat, step, hleft, ih, WeakField.findings_fixes_fixAll, List.eraseDups_append,
      List.flatMap_append]
    by_cases hw : w ∈ ws
    · simp [hw, List.removeAll]
    · simp [hw, List.removeAll, List.eraseDups_cons]

/-- A handler that comes alone warns about an element once, if at all. -/
theorem filter_id_findings_fixes (hids : (es.map Element.id).Nodup) {e : Element} (he : e ∈ es)
    (source : ElementSource) (w : WeakField) :
    (w.fixes source es).findings.filter (·.id = e.id) =
      if (w.fix? source e).isSome then [w.warning e] else [] := by
  have hone : (es.filter fun d => (w.fix? source d).isSome).filter (·.id = e.id) =
      [e].filter fun d => (w.fix? source d).isSome := by
    rw [List.filter_comm, filter_id_eq_singleton hids he]
  have hfilter : (w.fixes source es).findings.filter (·.id = e.id) =
      ((es.filter fun d => (w.fix? source d).isSome).filter (·.id = e.id)).map w.warning :=
    List.filter_map
  rw [hfilter, hone, List.filter_singleton]
  cases (w.fix? source e).isSome <;> rfl

theorem filter_id_findings_foldl (hids : (es.map Element.id).Nodup) {e : Element} (he : e ∈ es)
    (source : ElementSource) (ws : List WeakField) :
    (ws.foldl (step source) (es, {})).2.findings.filter (·.id = e.id) =
      (WeakField.reporting source ws e).map (·.warning e) := by
  rw [findings_foldl hids, List.filter_flatMap, WeakField.reporting_eq]
  induction ws.eraseDups with
  | nil => rfl
  | cons w ws ih =>
    rw [List.flatMap_cons, ih, filter_id_findings_fixes hids he, List.filter_cons]
    split <;> rfl

theorem exists_of_mem_findings_foldl (hids : (es.map Element.id).Nodup) {source : ElementSource}
    {ws : List WeakField} {f : Finding} (hf : f ∈ (ws.foldl (step source) (es, {})).2.findings) :
    ∃ e ∈ es, e.id = f.id := by
  rw [findings_foldl hids] at hf
  obtain ⟨w, -, hf⟩ := List.mem_flatMap.1 hf
  obtain ⟨e, he, rfl⟩ := List.mem_map.1 hf
  exact ⟨e, (List.mem_filter.1 he).1, rfl⟩

/-- The elements with warnings are those that come back. -/
theorem mem_ids_findings_foldl_iff (hids : (es.map Element.id).Nodup) (source : ElementSource)
    (ws : List WeakField) {id : ElementId} :
    id ∈ (ws.foldl (step source) (es, {})).2.findings.map Finding.id ↔
      id ∈ (ws.foldl (step source) (es, {})).2.fixed.map Element.id := by
  have hfixed := (afterAll_foldl hids source ws).mem_fixed
  constructor
  · intro hid
    obtain ⟨f, hf, rfl⟩ := List.mem_map.1 hid
    obtain ⟨e, he, hef⟩ := exists_of_mem_findings_foldl hids hf
    have hmem : f ∈ (ws.foldl (step source) (es, {})).2.findings.filter (·.id = e.id) :=
      List.mem_filter.2 ⟨hf, decide_eq_true hef.symm⟩
    rw [filter_id_findings_foldl hids he] at hmem
    obtain ⟨w, hw, -⟩ := List.mem_map.1 hmem
    rw [← hef, ← WeakField.id_fixAll source ws e]
    exact List.mem_map_of_mem ((hfixed _).2 ⟨e, he, ⟨w, WeakField.mem_reporting_iff.1 hw⟩, rfl⟩)
  · intro hid
    obtain ⟨d, hd, rfl⟩ := List.mem_map.1 hid
    obtain ⟨e, he, ⟨w, hw⟩, rfl⟩ := (hfixed d).1 hd
    have hmem : w.warning e ∈
        (ws.foldl (step source) (es, {})).2.findings.filter (·.id = e.id) := by
      rw [filter_id_findings_foldl hids he]
      exact List.mem_map_of_mem (WeakField.mem_reporting_iff.2 hw)
    rw [WeakField.id_fixAll]
    exact List.mem_map_of_mem (List.mem_filter.1 hmem).1

/-- No element has two warnings just when no two different handlers report the same element. -/
theorem nodup_ids_findings_foldl_iff (hids : (es.map Element.id).Nodup) (source : ElementSource)
    (ws : List WeakField) : ((ws.foldl (step source) (es, {})).2.findings.map Finding.id).Nodup ↔
      ∀ e ∈ es, (WeakField.reporting source ws e).length ≤ 1 := by
  rw [nodup_ids_iff_length_filter]
  constructor
  · intro h e he
    have hone := h e.id
    rwa [filter_id_findings_foldl hids he, List.length_map] at hone
  · intro h id
    by_cases hid : ∃ e ∈ es, e.id = id
    · obtain ⟨e, he, rfl⟩ := hid
      rw [filter_id_findings_foldl hids he, List.length_map]
      exact h e he
    · have hnone : (ws.foldl (step source) (es, {})).2.findings.filter (·.id = id) = [] := by
        refine List.filter_eq_nil_iff.2 fun f hf hfid => hid ?_
        obtain ⟨e, he, hef⟩ := exists_of_mem_findings_foldl hids hf
        exact ⟨e, he, hef.trans (of_decide_eq_true hfid)⟩
      simp [hnone]

end Fixes

namespace Adapter
variable {es : List Element}

/-- An element has one warning for each handler that finds a reference to a missing target in it,
in the order of the handlers. The elements with warnings are those that come back, and each has one
only when no two different handlers report the same element. -/
theorem fixElements_warnings (a : Adapter) (hids : (es.map Element.id).Nodup) :
    let fixes := a.fixElements es
    let reporting := WeakField.reporting a.source a.weakFields
    (∀ e ∈ es, fixes.findings.filter (·.id = e.id) = (reporting e).map (·.warning e)) ∧
    (∀ id, id ∈ fixes.findings.map Finding.id ↔ id ∈ fixes.fixed.map Element.id) ∧
    ((fixes.findings.map Finding.id).Nodup ↔ ∀ e ∈ es, (reporting e).length ≤ 1) := by
  intro fixes reporting
  refine ⟨fun e he => ?_, fun id => ?_, ?_⟩
  · exact Fixes.filter_id_findings_foldl hids he a.source a.weakFields
  · exact Fixes.mem_ids_findings_foldl_iff hids a.source a.weakFields
  · exact Fixes.nodup_ids_findings_foldl_iff hids a.source a.weakFields

/-- The scheme loses references in two fields, and the handler of the first of them comes twice. -/
theorem fixElements_warnings_kanban :
    let es := [.inst kanban, .objectType kanban.type]
    (es.map Element.id).Nodup ∧
    (knowingBugs.fixElements es).findings.filter (·.id = kanban.id) =
      [issueTypesOfSchemes.warning (.inst kanban),
        WeakField.warning ⟨IssueTypes.schemeType, "hidden"⟩ (.inst kanban)] := by
  intro es
  have hids : (es.map Element.id).Nodup := by decide
  have hreporting : WeakField.reporting knowingBugs.source knowingBugs.weakFields (.inst kanban) =
      [issueTypesOfSchemes, ⟨IssueTypes.schemeType, "hidden"⟩] := by
    decide +kernel
  refine ⟨hids, ((knowingBugs.fixElements_warnings hids).1 _ List.mem_cons_self).trans ?_⟩
  rw [hreporting]
  rfl

/-- One element that comes back has two warnings. -/
theorem fixElements_warns_twice :
    let es := [.inst kanban, .objectType kanban.type]
    (es.map Element.id).Nodup ∧
    (knowingBugs.fixElements es).fixed.map Element.id = [kanban.id] ∧
    (knowingBugs.fixElements es).findings.map Finding.id = [kanban.id, kanban.id] ∧
    ¬ ((knowingBugs.fixElements es).findings.map Finding.id).Nodup := by
  decide +kernel

end Adapter

end ElementSync
