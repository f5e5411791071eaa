import ElementSync.Proofs.ConditionLogic.Packing
import ElementSync.Proofs.ConditionLogic.Restoring
import Mathlib.Data.List.Basic

/-!
# Logic in several fields

When the logic in several fields is packed and the templates are kept together, the last template
taken from an owner displaces those before it, and restoring puts it into each of the fields. So an
instance is as it was only if whatever was taken from it stood in each of the fields. What cannot be
packed stays in its place and is told of.
-/

namespace ElementSync

namespace Instance

def setAll (i : Instance Element) (keys : List String) (v : Value Element) : Instance Element :=
  keys.foldl (fun i key => i.set key v) i

theorem setAll_cons (i : Instance Element) (key : String) (keys : List String) (v : Value Element) :
    i.setAll (key :: keys) v = (i.set key v).setAll keys v := rfl

variable {i : Instance Element} {key : String} {keys : List String} {u v : Value Element}

theorem get?_setAll_of_get? (h : i.get? key = some v) : (i.setAll keys v).get? key = some v := by
  induction keys generalizing i with
  | nil => exact h
  | cons key' keys ih =>
    refine ih ?_
    rw [get?_set, h, ite_self]

theorem get?_setAll_of_mem (hkey : key ∈ keys) : (i.setAll keys v).get? key = some v := by
  induction keys generalizing i with
  | nil => cases hkey
  | cons key' keys ih =>
    rw [setAll_cons]
    rcases List.mem_cons.1 hkey with rfl | hkey
    · exact get?_setAll_of_get? (get?_set_self i key v)
    · exact ih hkey

theorem setAll_eq_self_iff : i.setAll keys v = i ↔ ∀ key ∈ keys, i.get? key = some v := by
  constructor
  · intro h key hkey
    rw [← h, get?_setAll_of_mem hkey]
  · intro h
    induction keys with
    | nil => rfl
    | cons key keys ih =>
      rw [setAll_cons, set_of_get? (h key List.mem_cons_self)]
      exact ih fun key hkey => h key (List.mem_cons_of_mem _ hkey)

/-- What is in one of the fields does not matter when they are all written. -/
theorem setAll_set_of_mem (hkey : key ∈ keys) (h : i.get? key = some u) (w : Value Element) :
    (i.set key w).setAll keys v = i.setAll keys v := by
  induction keys generalizing i u with
  | nil => cases hkey
  | cons key' keys ih =>
    rw [setAll_cons, setAll_cons]
    by_cases hne : key = key'
    · rw [← hne, set_set]
    · have hget : (i.set key' v).get? key = some u := by rw [get?_set, if_neg hne, h]
      rw [set_comm_of_get? _ hne h]
      exact ih ((List.mem_cons.1 hkey).resolve_left hne) hget

end Instance

namespace ConditionLogic

/-! ### Packing field by field -/

/-- A field with logic, and where the records stand that the logic is about. -/
structure LogicField where
  name : String
  position : Reference Element → Option Int

def packField (s : List (Instance Element) × Saved) (p : LogicField) :
    List (Instance Element) × Saved :=
  (s.1.map (packInstance p.name p.position), save p.name p.position s.2 s.1)

def packFields (ps : List LogicField) (is : List (Instance Element)) :
    List (Instance Element) × Saved :=
  ps.foldl packField (is, [])

def restoreFields (names : List String) (saved : Saved) (is : List (Instance Element)) :
    List (Instance Element) :=
  names.foldl (fun is name => is.map (restore name saved)) is

/-- The first target without a position that keeps the template in a field from being packed. -/
def unplaced? (p : LogicField) (i : Instance Element) : Option ElementId :=
  (template? p.name i).bind fun t =>
    (t.references.find? fun r => (p.position r).isNone).map Reference.target

def packable? (p : LogicField) (i : Instance Element) : Option (Template Element) :=
  (template? p.name i).filter fun t => t.references.all fun r => (p.position r).isSome

def taken (ps : List LogicField) (i : Instance Element) : List (Template Element) :=
  ps.filterMap (packable? · i)

def packedIn (ps : List LogicField) (i : Instance Element) : Instance Element :=
  ps.foldl (fun i p => packInstance p.name p.position i) i

/-! ### One field -/

theorem pack_cases (position : Reference Element → Option Int) (t : Template Element) :
    (∃ s, pack position t = .ok s ∧ t.references.find? (fun r => (position r).isNone) = none) ∨
      ∃ r, pack position t = .error r.target ∧
        t.references.find? (fun r => (position r).isNone) = some r := by
  obtain ⟨ps⟩ := t
  rw [pack]
  induction ps with
  | nil => exact .inl ⟨"", rfl, rfl⟩
  | cons p ps ih =>
    cases p with
    | literal s =>
      rw [packParts_literal_cons, Template.references_literal_cons]
      rcases ih with ⟨u, hu, hnone⟩ | ⟨r, hr, hsome⟩
      · exact .inl ⟨s ++ u, by rw [hu]; rfl, hnone⟩
      · exact .inr ⟨r, by rw [hr]; rfl, hsome⟩
    | reference q =>
      rw [Template.references_reference_cons]
      cases hq : position q with
      | none => exact .inr ⟨q, by simp [packParts, hq], by simp [hq]⟩
      | some n =>
        rw [packParts_reference_cons position hq]
        rcases ih with ⟨u, hu, hnone⟩ | ⟨r, hr, hsome⟩
        · exact .inl ⟨toString n ++ u, by rw [hu]; rfl, by simpa [hq] using hnone⟩
        · exact .inr ⟨r, by rw [hr]; rfl, by simpa [hq] using hsome⟩

section
variable {p : LogicField} {i j : Instance Element} {t : Template Element}

theorem template?_congr {field : String} (h : i.get? field = j.get? field) :
    template? field i = template? field j := by
  rw [template?, h, ← template?]

theorem packable?_eq_some_iff : packable? p i = some t ↔
    template? p.name i = some t ∧ ∀ r ∈ t.references, (p.position r).isSome := by
  rw [packable?, Option.filter_eq_some_iff, List.all_eq_true]

theorem unplaced?_of_packable? (h : packable? p i = some t) : unplaced? p i = none := by
  obtain ⟨ht, hplaced⟩ := packable?_eq_some_iff.1 h
  have hnone : (t.references.find? fun r => (p.position r).isNone) = none := by
    simpa [List.find?_eq_none, Option.isSome_iff_ne_none] using hplaced
  rw [unplaced?, ht, Option.bind_some, hnone]
  rfl

theorem map_fst_packed? (p : LogicField) (i : Instance Element) :
    (packed? p.name p.position i).map Prod.fst = packable? p i := by
  rw [packed?]
  cases ht : template? p.name i with
  | none => rw [packable?, ht]; rfl
  | some t =>
    rcases pack_cases p.position t with ⟨s, hs, hnone⟩ | ⟨r, hr, hsome⟩
    · have hplaced : ∀ r ∈ t.references, (p.position r).isSome := by
        simpa [List.find?_eq_none, Option.isSome_iff_ne_none] using hnone
      rw [packable?_eq_some_iff.2 ⟨ht, hplaced⟩]
      simp [hs, Except.toOption]
    · have hnone : packable? p i = none := by
        rw [Option.eq_none_iff_forall_ne_some]
        intro u hu
        obtain ⟨hu, hplaced⟩ := packable?_eq_some_iff.1 hu
        cases ht.symm.trans hu
        have hplace := hplaced r (List.mem_of_find?_eq_some hsome)
        have hunplaced := List.find?_some hsome
        simp [Option.isNone_iff_eq_none.1 hunplaced] at hplace
      simp [hr, hnone, Except.toOption]

/-- An instance keeps all but the template that can be packed. -/
theorem packInstance_cases (p : LogicField) (i : Instance Element) :
    (packable? p i = none ∧ packInstance p.name p.position i = i) ∨
      ∃ t s, packable? p i = some t ∧ i.get? p.name = some (.template t) ∧
        packInstance p.name p.position i = i.set p.name (.text s) := by
  rw [← map_fst_packed?, packInstance]
  cases h : packed? p.name p.position i with
  | none => exact .inl ⟨rfl, rfl⟩
  | some q => exact .inr ⟨q.1, q.2, rfl, packed?_eq_some h, rfl⟩

theorem packInstance_of_unplaced? (h : (unplaced? p i).isSome) :
    packInstance p.name p.position i = i := by
  rcases packInstance_cases p i with ⟨-, hkeep⟩ | ⟨t, s, ht, -, -⟩
  · exact hkeep
  · simp [unplaced?_of_packable? ht] at h

theorem id_packInstance (p : LogicField) (i : Instance Element) :
    (packInstance p.name p.position i).id = i.id := by
  rcases packInstance_cases p i with ⟨-, h⟩ | ⟨t, s, -, -, h⟩ <;> rw [h]
  rfl

theorem get?_packInstance_of_ne {key : String} (hne : key ≠ p.name) :
    (packInstance p.name p.position i).get? key = i.get? key := by
  rcases packInstance_cases p i with ⟨-, h⟩ | ⟨t, s, -, -, h⟩ <;> rw [h]
  rw [Instance.get?_set, if_neg hne]

theorem failures_eq (p : LogicField) (is : List (Instance Element)) :
    failures p.name p.position is = is.filterMap (unplaced? p) := by
  rw [failures]
  apply List.filterMap_congr
  intro i _
  rw [unplaced?]
  cases template? p.name i with
  | none => rfl
  | some t =>
    rcases pack_cases p.position t with ⟨s, hs, hnone⟩ | ⟨r, hr, hsome⟩
    · simp [hs, hnone]
    · simp [hr, hsome]

end

/-! ### Several fields -/

theorem map_id_packInstance (p : LogicField) (is : List (Instance Element)) :
    (is.map (packInstance p.name p.position)).map Instance.id = is.map Instance.id := by
  rw [List.map_map]
  exact List.map_congr_left fun i _ => id_packInstance p i

theorem get?_packedIn_of_notMem {ps : List LogicField} {key : String}
    (hkey : key ∉ ps.map LogicField.name) (i : Instance Element) :
    (packedIn ps i).get? key = i.get? key := by
  induction ps generalizing i with
  | nil => rfl
  | cons p ps ih =>
    rw [List.map_cons, List.mem_cons, not_or] at hkey
    exact (ih hkey.2 _).trans (get?_packInstance_of_ne hkey.1)

theorem id_packedIn (ps : List LogicField) (i : Instance Element) : (packedIn ps i).id = i.id := by
  induction ps generalizing i with
  | nil => rfl
  | cons p ps ih => exact (ih _).trans (id_packInstance p i)

/-- Packing one field leaves what can be taken from the others. -/
theorem taken_packInstance {ps : List LogicField} {p : LogicField}
    (hp : p.name ∉ ps.map LogicField.name) (i : Instance Element) :
    taken ps (packInstance p.name p.position i) = taken ps i := by
  apply List.filterMap_congr
  intro q hq
  have hne : q.name ≠ p.name := fun h => hp (h ▸ List.mem_map_of_mem hq)
  rw [packable?, packable?, template?_congr (get?_packInstance_of_ne hne)]

theorem taken_cons (p : LogicField) (ps : List LogicField) (i : Instance Element) :
    taken (p :: ps) i = (packable? p i).toList ++ taken ps i := by
  rw [taken, List.filterMap_cons]
  cases packable? p i <;> rfl

theorem fst_foldl_packField (ps : List LogicField) (is : List (Instance Element)) (m : Saved) :
    (ps.foldl packField (is, m)).1 = is.map (packedIn ps) := by
  induction ps generalizing is m with
  | nil => exact (List.map_id is).symm
  | cons p ps ih =>
    rw [List.foldl_cons, packField, ih, List.map_map]
    rfl

/-- Of the templates taken from an owner the last one is kept. -/
theorem lookup_snd_foldl_packField {ps : List LogicField} (hps : (ps.map LogicField.name).Nodup)
    {is : List (Instance Element)} (his : (is.map Instance.id).Nodup) {i : Instance Element}
    (hi : i ∈ is) (m : Saved) :
    (ps.foldl packField (is, m)).2.lookup i.id = (taken ps i).getLast?.or (m.lookup i.id) := by
  induction ps generalizing is i m with
  | nil => rfl
  | cons p ps ih =>
    obtain ⟨hp, hps⟩ := List.nodup_cons.1 hps
    have hsaved := Assoc.lookup_foldl_of_mem (lookup_save_singleton p.name p.position) his hi m
    rw [map_fst_packed?] at hsaved
    have hrest := ih hps ((map_id_packInstance p is).symm ▸ his)
      (List.mem_map_of_mem (f := packInstance p.name p.position) hi) (save p.name p.position m is)
    rw [id_packInstance, taken_packInstance hp] at hrest
    have hlast : ∀ o : Option (Template Element), o.toList.getLast? = o := by
      intro o
      cases o <;> rfl
    rw [List.foldl_cons, packField, hrest, taken_cons, List.getLast?_append, hlast, Option.or_assoc]
    exact congrArg (taken ps i).getLast?.or hsaved

/-! ### Restoring field by field -/

theorem foldl_restore_of_lookup {saved : Saved} {i : Instance Element} {t : Template Element}
    (h : saved.lookup i.id = some t) (names : List String) :
    names.foldl (fun i name => restore name saved i) i = i.setAll names (.template t) := by
  induction names generalizing i with
  | nil => rfl
  | cons name names ih =>
    have hset : restore name saved i = i.set name (.template t) := by rw [restore, h]
    rw [List.foldl_cons, hset, Instance.setAll_cons]
    exact ih (by rwa [Instance.id_set])

theorem foldl_restore_of_lookup_none {saved : Saved} {i : Instance Element}
    (h : saved.lookup i.id = none) (names : List String) :
    names.foldl (fun i name => restore name saved i) i = i := by
  induction names with
  | nil => rfl
  | cons name names ih =>
    have hkeep : restore name saved i = i := by rw [restore, h]
    rw [List.foldl_cons, hkeep, ih]

theorem restoreFields_eq_map (names : List String) (saved : Saved) (is : List (Instance Element)) :
    restoreFields names saved is =
      is.map fun i => names.foldl (fun i name => restore name saved i) i := by
  rw [restoreFields]
  induction names generalizing is with
  | nil => exact (List.map_id is).symm
  | cons name names ih => rw [List.foldl_cons, ih, List.map_map]; rfl

theorem packedIn_of_taken_nil {ps : List LogicField} {i : Instance Element} (h : taken ps i = []) :
    packedIn ps i = i := by
  induction ps with
  | nil => rfl
  | cons p ps ih =>
    rw [taken_cons, List.append_eq_nil_iff] at h
    have hkeep : packInstance p.name p.position i = i := by
      rcases packInstance_cases p i with ⟨-, hkeep⟩ | ⟨t, s, ht, -, -⟩
      · exact hkeep
      · simp [ht] at h
    rw [packedIn, List.foldl_cons, hkeep]
    exact ih h.2

/-- Writing all fields hides what packing did to them. -/
theorem setAll_packedIn {ps : List LogicField} {names : List String}
    (hnames : ∀ p ∈ ps, p.name ∈ names) (i : Instance Element) (v : Value Element) :
    (packedIn ps i).setAll names v = i.setAll names v := by
  induction ps generalizing i with
  | nil => rfl
  | cons p ps ih =>
    have hrest := ih (fun q hq => hnames q (List.mem_cons_of_mem p hq))
      (packInstance p.name p.position i)
    rw [packedIn, List.foldl_cons]
    refine hrest.trans ?_
    rcases packInstance_cases p i with ⟨-, h⟩ | ⟨t, s, -, hget, h⟩ <;> rw [h]
    exact Instance.setAll_set_of_mem (hnames p List.mem_cons_self) hget _

/-- What keeps a field from being packed is told whatever became of the other fields. -/
theorem failures_packedIn {ps : List LogicField} {p : LogicField}
    (hp : p.name ∉ ps.map LogicField.name) (is : List (Instance Element)) :
    failures p.name p.position (is.map (packedIn ps)) = is.filterMap (unplaced? p) := by
  rw [failures_eq, List.filterMap_map]
  apply List.filterMap_congr
  intro i _
  rw [Function.comp_apply, unplaced?, template?_congr (get?_packedIn_of_notMem hp i), ← unplaced?]

/-- Restoring puts back the template that was taken last. -/
theorem restoreFields_packFields {is : List (Instance Element)} (his : (is.map Instance.id).Nodup)
    {ps : List LogicField} (hps : (ps.map LogicField.name).Nodup) {names : List String}
    (hnames : names.Perm (ps.map LogicField.name)) :
    let packed := packFields ps is
    restoreFields names packed.2 packed.1 = (is.map fun i =>
      (taken ps i).getLast?.elim i fun t => i.setAll names (.template t)) := by
  dsimp only
  rw [packFields, fst_foldl_packField, restoreFields_eq_map, List.map_map]
  apply List.map_congr_left
  intro i hi
  have hsaved := lookup_snd_foldl_packField hps his hi []
  rw [List.lookup_nil, Option.or_none] at hsaved
  rw [Function.comp_apply]
  cases hlast : (taken ps i).getLast? with
  | none =>
    have hnil := List.getLast?_eq_none_iff.1 hlast
    rw [packedIn_of_taken_nil hnil, foldl_restore_of_lookup_none (hsaved.trans hlast)]
    rfl
  | some t =>
    have hmem : ∀ p ∈ ps, p.name ∈ names := fun p hp => hnames.mem_iff.2 (List.mem_map_of_mem hp)
    have hlookup : (ps.foldl packField (is, [])).2.lookup (packedIn ps i).id = some t := by
      rw [id_packedIn, hsaved, hlast]
    rw [foldl_restore_of_lookup hlookup, setAll_packedIn hmem]
    rfl

theorem exists_of_mem_taken {ps : List LogicField} {i : Instance Element} {t : Template Element}
    (h : t ∈ taken ps i) : ∃ p ∈ ps, i.get? p.name = some (.template t) := by
  obtain ⟨p, hp, ht⟩ := List.mem_filterMap.1 h
  rcases packInstance_cases p i with ⟨hnone, -⟩ | ⟨u, s, hu, hget, -⟩
  · rw [hnone] at ht
    cases ht
  · cases hu.symm.trans ht
    exact ⟨p, hp, hget⟩

/-- Templates kept by their owners alone, for several fields: each instance gets back in all of the
fields what was taken from it last. It is as it was exactly when whatever was taken from it stood in
all of them. A template that cannot be packed stays, and the first target in its way is told of,
instance by instance. -/
theorem restoreFields_eq_self_iff {is : List (Instance Element)} (his : (is.map Instance.id).Nodup)
    {ps : List LogicField} (hps : (ps.map LogicField.name).Nodup) {names : List String}
    (hnames : names.Perm (ps.map LogicField.name)) :
    let packed := packFields ps is
    let restored := restoreFields names packed.2 packed.1
    (restored = is.map fun i =>
      (taken ps i).getLast?.elim i fun t => i.setAll names (.template t)) ∧
    (∀ (n : Nat) (i : Instance Element), is[n]? = some i →
      (restored[n]? = some i ↔
        ∀ t ∈ taken ps i, ∀ p ∈ ps, i.get? p.name = some (.template t))) ∧
    ∀ before p after, ps = before ++ p :: after →
      let current := (packFields before is).1
      failures p.name p.position current = is.filterMap (unplaced? p) ∧
      ∀ i ∈ current, (unplaced? p i).isSome → packInstance p.name p.position i = i := by
  dsimp only
  have hrestored := restoreFields_packFields his hps hnames
  dsimp only at hrestored
  refine ⟨hrestored, ?_, ?_⟩
  · intro n i hi
    rw [hrestored, List.getElem?_map, hi, Option.map_some, Option.some_inj]
    cases hlast : (taken ps i).getLast? with
    | none => simp [List.getLast?_eq_none_iff.1 hlast]
    | some t =>
      rw [Option.elim_some, Instance.setAll_eq_self_iff]
      constructor
      · intro h u hu p hp
        have hall : ∀ q ∈ ps, i.get? q.name = some (.template t) := fun q hq =>
          h q.name (hnames.mem_iff.2 (List.mem_map_of_mem hq))
        obtain ⟨q, hq, hget⟩ := exists_of_mem_taken hu
        rw [← hget, hall p hp, hall q hq]
      · intro h key hkey
        obtain ⟨p, hp, rfl⟩ := List.mem_map.1 (hnames.mem_iff.1 hkey)
        exact h t (List.mem_of_getLast? hlast) p hp
  · rintro before p after rfl
    have hp : p.name ∉ before.map LogicField.name := by
      rw [List.map_append, List.map_cons] at hps
      intro hmem
      exact (List.nodup_append.1 hps).2.2 _ hmem _ List.mem_cons_self rfl
    rw [packFields, fst_foldl_packField]
    exact ⟨failures_packedIn hp is, fun i _ => packInstance_of_unplaced?⟩

/-! ### Two fields of one rule -/

def twoPositions (r : Reference Element) : Option Int :=
  if r.target = .inst "sf" "Condition" "c1" then some 1
  else if r.target = .inst "sf" "Condition" "c2" then some 2
  else none

def twoFields : List LogicField := [⟨"Logic", twoPositions⟩, ⟨"Filter", twoPositions⟩]

def conditionTemplate (name : String) : Template Element :=
  ⟨[.reference ⟨.inst "sf" "Condition" name, none⟩]⟩

def ruleOfTwoFields : Instance Element where
  name := "r1"
  type := { id := .type "sf" "Rule" }
  value := [("Logic", .template (conditionTemplate "c1")),
    ("Filter", .template (conditionTemplate "c2"))]

def ruleOfNoPosition : Instance Element where
  name := "r2"
  type := { id := .type "sf" "Rule" }
  value := [("Filter", .text "all"), ("Logic", .template (conditionTemplate "c3"))]

theorem restoreFields_eq_self_iff_two :
    (([ruleOfTwoFields, ruleOfNoPosition].map Instance.id).Nodup ∧
      (twoFields.map LogicField.name).Nodup ∧
      ["Filter", "Logic"].Perm (twoFields.map LogicField.name)) ∧
    let packed := packFields twoFields [ruleOfTwoFields, ruleOfNoPosition]
    restoreFields ["Filter", "Logic"] packed.2 packed.1 =
      [ruleOfTwoFields.set "Logic" (.template (conditionTemplate "c2")), ruleOfNoPosition] := by
  have his : ([ruleOfTwoFields, ruleOfNoPosition].map Instance.id).Nodup := by decide
  have hps : (twoFields.map LogicField.name).Nodup := by decide
  have hnames : ["Filter", "Logic"].Perm (twoFields.map LogicField.name) := by decide
  refine ⟨⟨his, hps, hnames⟩, ?_⟩
  exact (restoreFields_eq_self_iff his hps hnames).1.trans rfl

/-- The logic is not what it was: the filter is there in its place. -/
theorem restored_logic_of_filter :
    ([ruleOfTwoFields].map Instance.id).Nodup ∧ (twoFields.map LogicField.name).Nodup ∧
    let packed := packFields twoFields [ruleOfTwoFields]
    let restored := restoreFields (twoFields.map LogicField.name) packed.2 packed.1
    restored = [ruleOfTwoFields.set "Logic" (.template (conditionTemplate "c2"))] ∧
      restored ≠ [ruleOfTwoFields] := by
  refine ⟨by decide, by decide, rfl, ?_⟩
  intro h
  have htargets := congrArg
    (List.map fun i => (template? "Logic" i).map fun t => t.references.map Reference.target) h
  exact absurd htargets (by decide)

end ConditionLogic

end ElementSync
