import ElementSync.ConditionLogic.Rules
import ElementSync.Proofs.Change.Writes

/-!
# Packed rules restored

Packing turns templates in logic fields into text and leaves everything else. Restoring brings the
templates back, also when fields that keep no logic were written in the meantime.
-/

namespace ElementSync

namespace ConditionLogic

def logicFields : List String := RuleKind.all.map RuleKind.logicField

end ConditionLogic

/-- Nothing but templates in logic fields differs. -/
structure Instance.PacksInto (i j : Instance Element) : Prop where
  outline : j.outline = i.outline
  keys : Assoc.keys j.value = Assoc.keys i.value
  get?_eq : ∀ key, (key ∈ ConditionLogic.logicFields → ∀ t, i.get? key ≠ some (.template t)) →
    j.get? key = i.get? key

namespace Instance.PacksInto
variable {i j k : Instance Element}

theorem refl (i : Instance Element) : i.PacksInto i := ⟨rfl, rfl, fun _ _ => rfl⟩

theorem trans (h : i.PacksInto j) (h' : j.PacksInto k) : i.PacksInto k where
  outline := h'.outline.trans h.outline
  keys := h'.keys.trans h.keys
  get?_eq := by
    intro key hkey
    have hij := h.get?_eq key hkey
    rw [h'.get?_eq key (by rwa [hij]), hij]

theorem get?_of_notMem (h : i.PacksInto j) {key : String}
    (hkey : key ∉ ConditionLogic.logicFields) : j.get? key = i.get? key :=
  h.get?_eq key fun hmem => absurd hmem hkey

theorem get?_of_reference (h : i.PacksInto j) {key : String} {r : Reference Element}
    (hr : i.get? key = some (.reference r)) : j.get? key = some (.reference r) := by
  rw [h.get?_eq key fun _ t => by rw [hr]; simp, hr]

end Instance.PacksInto

namespace ConditionLogic

theorem RuleKind.of?_eq_of_type {i j : Instance Element} (h : j.type = i.type) :
    of? j = of? i := by
  rw [of?, of?, Instance.isRecord, Instance.isRecord, Instance.typeName, Instance.typeName, h]

theorem RuleKind.of?_eq_some {i : Instance Element} {k : RuleKind} (h : of? i = some k) :
    k ∈ all ∧ i.isRecord ∧ i.typeName = k.ruleType := by
  obtain ⟨hrecord, hfind⟩ := Option.ite_none_right_eq_some.1 h
  have htype := List.find?_some hfind
  exact ⟨List.mem_of_find?_eq_some hfind, hrecord, (of_decide_eq_true htype).symm⟩

section
variable (field : String) (position : Reference Element → Option Int)

theorem packed?_eq_some {field : String} {position : Reference Element → Option Int}
    {i : Instance Element} {t : Template Element} {s : String}
    (h : packed? field position i = some (t, s)) : i.get? field = some (.template t) := by
  obtain ⟨t', ht', h⟩ := Option.bind_eq_some_iff.1 h
  obtain ⟨s', -, h⟩ := Option.bind_eq_some_iff.1 h
  cases h
  obtain ⟨v, hv, htemplate⟩ := Option.bind_eq_some_iff.1 ht'
  cases v with
  | template u => rw [hv, Option.some.inj htemplate]
  | _ => cases htemplate

theorem packsInto_packInstance (hfield : field ∈ logicFields) (i : Instance Element) :
    i.PacksInto (packInstance field position i) := by
  unfold packInstance
  cases h : packed? field position i with
  | none => exact Instance.PacksInto.refl i
  | some p =>
    have ht := packed?_eq_some h
    refine ⟨rfl, Assoc.keys_put_of_mem (Instance.mem_keys_of_get? ht) _, ?_⟩
    intro key hkey
    have hne : key ≠ field := by
      rintro rfl
      exact hkey hfield p.1 ht
    rw [Instance.get?_set, if_neg hne]

end

theorem packsInto_packRule (c : LookupContext) (i : Instance Element) :
    i.PacksInto (packRule c i) := by
  unfold packRule
  cases h : RuleKind.of? i with
  | none => exact Instance.PacksInto.refl i
  | some k =>
    exact packsInto_packInstance _ _ (List.mem_map_of_mem (RuleKind.of?_eq_some h).1) i

/-! ### What is saved -/

section
variable (field : String) (position : Reference Element → Option Int)

theorem lookup_save_singleton (m : Saved) (i : Instance Element) (id : ElementId) :
    (save field position m [i]).lookup id =
      if id = i.id then ((packed? field position i).map Prod.fst).or (m.lookup id)
      else m.lookup id := by
  rw [save, List.foldl_cons, List.foldl_nil]
  cases packed? field position i with
  | none => simp
  | some p => simp [Assoc.lookup_put]

/-- Among instances without repeated ids, the saved template of one is the one that was packed. -/
theorem lookup_save {is : List (Instance Element)} (his : (is.map Instance.id).Nodup)
    {i : Instance Element} (hi : i ∈ is) :
    (save field position [] is).lookup i.id = (packed? field position i).map Prod.fst := by
  have hsaved := Assoc.lookup_foldl_of_mem (lookup_save_singleton field position) his hi []
  exact hsaved.trans (by simp)

end

theorem nodup_ruleTypes : (RuleKind.all.map RuleKind.ruleType).Nodup := by decide

variable (source : ElementSource) {cs : List (Change Element)}

/-- Templates of a type that were saved before stay unless there are new ones. -/
theorem lookup_saveChanges_ruleType (saved : SavedByType) {k : RuleKind} (hk : k ∈ RuleKind.all) :
    let new := save k.logicField (currentIndex (contextOf source cs) k) [] (rulesOf k cs)
    (saveChanges source cs saved).lookup k.ruleType =
      (if new.isEmpty then none else some new).or (saved.lookup k.ruleType) := by
  let new (k : RuleKind) :=
    save k.logicField (currentIndex (contextOf source cs) k) [] (rulesOf k cs)
  have hstep : ∀ (m : SavedByType) (k : RuleKind) (type : String),
      (if (new k).isEmpty then m else Assoc.put m k.ruleType (new k)).lookup type =
      if type = k.ruleType then
        (if (new k).isEmpty then none else some (new k)).or (m.lookup type)
      else m.lookup type := by
    intro m k type
    split
    · simp
    · rw [Assoc.lookup_put, Option.some_or]
  exact Assoc.lookup_foldl_of_mem hstep nodup_ruleTypes hk saved

theorem lookup_saveChanges {k : RuleKind} (hk : k ∈ RuleKind.all) :
    ((saveChanges source cs []).lookup k.ruleType).getD [] =
      save k.logicField (currentIndex (contextOf source cs) k) [] (rulesOf k cs) := by
  rw [lookup_saveChanges_ruleType source [] hk, List.lookup_nil, Option.or_none]
  split
  case isTrue hempty => rw [List.isEmpty_iff.1 hempty, Option.getD_none]
  case isFalse => rfl

def afterInstances (cs : List (Change Element)) : List (Instance Element) :=
  cs.filterMap fun c => c.after?.bind Element.inst?

theorem id_of_after? {c : Change Element} {i : Instance Element}
    (h : c.after?.bind Element.inst? = some i) : i.id = c.id := by
  obtain ⟨e, he, hi⟩ := Option.bind_eq_some_iff.1 h
  cases e with
  | inst j =>
    cases hi
    cases c <;> cases he <;> rfl
  | _ => cases hi

theorem nodup_ids_afterInstances (hids : (cs.map Change.id).Nodup) :
    ((afterInstances cs).map Instance.id).Nodup := by
  have hsub : ((afterInstances cs).map Instance.id).Sublist (cs.map Change.id) := by
    clear hids
    induction cs with
    | nil => exact List.Sublist.slnil
    | cons c cs ih =>
      rw [List.map_cons]
      cases h : c.after?.bind Element.inst? with
      | none =>
        rw [afterInstances, List.filterMap_cons_none (by exact h)]
        exact ih.cons c.id
      | some i =>
        rw [afterInstances, List.filterMap_cons_some (by exact h), List.map_cons, id_of_after? h]
        exact ih.cons_cons c.id
  exact hids.sublist hsub

/-- A rule whose logic was packed is restored, whatever was written into its other fields. -/
theorem restoreRule_packRule_write (hids : (cs.map Change.id).Nodup) {i : Instance Element}
    (hi : i ∈ afterInstances cs) {es : Values Element}
    (hes : ∀ key ∈ Assoc.keys es, key ∉ logicFields) :
    restoreRule (saveChanges source cs []) ((packRule (contextOf source cs) i).write es) =
      i.write es := by
  have houtline : ((packRule (contextOf source cs) i).write es).outline = i.outline :=
    (Instance.outline_write _ es).trans (packsInto_packRule _ i).outline
  have hkind := RuleKind.of?_eq_of_type (Instance.type_eq_of_outline houtline)
  have hid := Instance.id_eq_of_outline houtline
  unfold restoreRule
  rw [hkind]
  cases hof : RuleKind.of? i with
  | none =>
    rw [packRule, hof]
  | some k =>
    obtain ⟨hk, hrecord, htype⟩ := RuleKind.of?_eq_some hof
    have hmem : i ∈ rulesOf k cs := List.mem_filter.2 ⟨hi, by simp [hrecord, htype]⟩
    have hnodup : ((rulesOf k cs).map Instance.id).Nodup :=
      (nodup_ids_afterInstances hids).sublist (List.filter_sublist.map Instance.id)
    have hlogic : k.logicField ∉ Assoc.keys es := fun hmem =>
      hes _ hmem (List.mem_map_of_mem hk)
    dsimp only
    rw [restore, lookup_saveChanges source hk, hid, lookup_save _ _ hnodup hmem]
    rw [packRule, hof]
    dsimp only
    rw [packInstance]
    cases hpacked : packed? k.logicField (currentIndex (contextOf source cs) k) i with
    | none => rfl
    | some p =>
      have ht := packed?_eq_some hpacked
      have hkept : (i.write es).get? k.logicField = some (.template p.1) := by
        rw [Instance.get?_write_of_notMem hlogic, ht]
      dsimp only [Option.map_some]
      rw [Instance.write_set_of_notMem hlogic ht, Instance.set_set, Instance.set_of_get? hkept]

/-! ### Changes -/

theorem mapAfter_comp (f g : Instance Element → Instance Element) (c : Change Element) :
    mapAfter g (mapAfter f c) = mapAfter (fun i => g (f i)) c := by
  cases c with
  | removal b => rfl
  | addition a => cases a <;> rfl
  | modification b a => cases a <;> rfl

theorem mapAfter_id (c : Change Element) : mapAfter (fun i => i) c = c := by
  cases c with
  | removal b => rfl
  | addition a => cases a <;> rfl
  | modification b a => cases a <;> rfl

theorem mapAfter_write_mapAfter {f g : Instance Element → Instance Element} {c : Change Element}
    {es : Values Element}
    (h : ∀ i, c.after?.bind Element.inst? = some i → g ((f i).write es) = i.write es) :
    mapAfter g ((mapAfter f c).write es) = c.write es := by
  cases c with
  | removal b => rfl
  | addition a =>
    cases a with
    | inst i => exact congrArg (fun j => Change.addition (Element.inst j)) (h i rfl)
    | _ => rfl
  | modification b a =>
    cases a with
    | inst i => exact congrArg (fun j => Change.modification b (Element.inst j)) (h i rfl)
    | _ => rfl

end ConditionLogic

namespace RecordChange

def mapAfter (f : Instance Element → Instance Element) : RecordChange → RecordChange
  | .removal b => .removal b
  | c => c.mapData f

variable {f : Instance Element → Instance Element}

theorem toChange_mapAfter (c : RecordChange) :
    toChange (mapAfter f c) = ConditionLogic.mapAfter f c.toChange := by
  cases c <;> rfl

theorem action_mapAfter (c : RecordChange) : Change.action (mapAfter f c) = c.action := by
  cases c <;> rfl

theorem additions_mapAfter {cs : List RecordChange} (hcs : ∀ c ∈ cs, c.action = .add) :
    ∀ c ∈ cs.map (mapAfter f), c.action = .add := by
  intro c hc
  obtain ⟨d, hd, rfl⟩ := List.mem_map.1 hc
  rw [action_mapAfter, hcs d hd]

theorem packsInto_mapAfter (hf : ∀ i : Instance Element, i.PacksInto (f i)) (c : RecordChange) :
    c.data.PacksInto (mapAfter f c).data := by
  cases c with
  | removal b => exact Instance.PacksInto.refl b
  | _ => exact hf _

theorem id_mapAfter (hf : ∀ i : Instance Element, i.PacksInto (f i)) (c : RecordChange) :
    (mapAfter f c).id = c.id :=
  Instance.id_eq_of_outline (packsInto_mapAfter hf c).outline

theorem map_id_mapAfter (hf : ∀ i : Instance Element, i.PacksInto (f i))
    (cs : List RecordChange) :
    (cs.map (mapAfter f)).map RecordChange.id = cs.map RecordChange.id := by
  rw [List.map_map]
  exact List.map_congr_left fun c _ => id_mapAfter hf c

end RecordChange

namespace ConditionLogic

variable (source : ElementSource) {cs : List (Change Element)}

/-- Reported are changes with something written into them; restoring them gives the changes as
they were before packing, with the same written into them. -/
theorem restoreChanges_packed (hids : (cs.map Change.id).Nodup)
    {reports : List (Change Element × Values Element)}
    (hreports : ∀ r ∈ reports, r.1 ∈ cs ∧ ∀ key ∈ Assoc.keys r.2, key ∉ logicFields) :
    restoreChanges (saveChanges source cs [])
      (reports.map fun r => (mapAfter (packRule (contextOf source cs)) r.1).write r.2) =
      reports.map fun r => r.1.write r.2 := by
  rw [restoreChanges, List.map_map]
  apply List.map_congr_left
  intro r hr
  obtain ⟨hmem, hkeys⟩ := hreports r hr
  apply mapAfter_write_mapAfter
  intro i hi
  exact restoreRule_packRule_write source hids (List.mem_filterMap.2 ⟨r.1, hmem, hi⟩) hkeys

end ConditionLogic

end ElementSync
