import ElementSync.Proofs.Change.Writes
import ElementSync.Proofs.Reference.Index
import ElementSync.Reference.Weak
import Mathlib

/-!
# Optional references that are dropped

Handlers that come one after the other leave an instance as it was, but for the fields that they
are for. These lose just the references that are reported and whose targets are missing, and no
handler finds anything in them again.
-/

namespace ElementSync

def Value.withoutItems (gone : Nat → Bool) : Value Element → Value Element
  | .sequence vs => .sequence ((vs.zipIdx.filter fun p => !gone p.2).map Prod.fst)
  | v => v

namespace WeakField
variable {source : ElementSource} {w : WeakField} {ws us : List WeakField} {e d : Element}
  {i j k : Instance Element}

theorem entries?_eq_some_iff {vs : List (Value Element)} : w.entries? e = some vs ↔
    ∃ i, e = .inst i ∧ i.typeName = w.typeName ∧ i.get? w.field = some (.sequence vs) := by
  constructor
  · intro h
    cases e with
    | inst i =>
      rw [entries?] at h
      simp only [Element.inst?, Option.bind_eq_bind, Option.bind_some] at h
      split at h
      case isTrue htype =>
        obtain ⟨v, hv, hvs⟩ := Option.bind_eq_some_iff.1 h
        rw [Value.eq_sequence_of_sequence? hvs] at hv
        exact ⟨i, rfl, htype, hv⟩
      case isFalse => cases h
    | _ => cases h
  · rintro ⟨i, rfl, htype, hv⟩
    rw [entries?]
    simp [Element.inst?, htype, hv, Value.sequence?]

theorem fix?_of_entries? {vs : List (Value Element)} (h : w.entries? (.inst i) = some vs) :
    w.fix? source (.inst i) =
      if (vs.filter (present source)).length = vs.length then none
      else some (.inst (i.set w.field (.sequence (vs.filter (present source))))) := by
  rw [fix?, h]
  rfl

theorem fix?_of_entries?_eq_none (h : w.entries? e = none) : w.fix? source e = none := by
  rw [fix?, h]
  rfl

theorem fix?_of_inst?_eq_none (h : e.inst? = none) : w.fix? source e = none := by
  apply fix?_of_entries?_eq_none
  rw [entries?, h]
  rfl

theorem length_filter_present_iff {vs : List (Value Element)} :
    (vs.filter (present source)).length = vs.length ↔ ¬ ∃ v ∈ vs, ¬ present source v := by
  rw [List.length_filter_eq_length_iff]
  simp

/-- A handler gives an element back when an item of its field goes. -/
theorem fix?_eq_some_iff : w.fix? source e = some d ↔
    ∃ i vs, e = .inst i ∧ i.typeName = w.typeName ∧ i.get? w.field = some (.sequence vs) ∧
      (∃ v ∈ vs, ¬ present source v) ∧
      d = .inst (i.set w.field (.sequence (vs.filter (present source)))) := by
  constructor
  · intro h
    cases hvs : w.entries? e with
    | none =>
      rw [fix?_of_entries?_eq_none hvs] at h
      cases h
    | some vs =>
      obtain ⟨i, rfl, htype, hv⟩ := entries?_eq_some_iff.1 hvs
      rw [fix?_of_entries? hvs] at h
      split at h
      case isTrue => cases h
      case isFalse hlength =>
        have hmissing := Classical.not_not.1 (mt length_filter_present_iff.2 hlength)
        exact ⟨i, vs, rfl, htype, hv, hmissing, (Option.some.inj h).symm⟩
  · rintro ⟨i, vs, rfl, htype, hv, hmissing, rfl⟩
    rw [fix?_of_entries? (entries?_eq_some_iff.2 ⟨i, rfl, htype, hv⟩),
      if_neg (mt length_filter_present_iff.1 (not_not_intro hmissing))]

theorem isSome_fix?_inst_iff : (w.fix? source (.inst i)).isSome ↔
    i.typeName = w.typeName ∧
      ∃ vs, i.get? w.field = some (.sequence vs) ∧ ∃ v ∈ vs, ¬ present source v := by
  rw [Option.isSome_iff_exists]
  constructor
  · rintro ⟨d, h⟩
    obtain ⟨i', vs, hi, htype, hv, hmissing, -⟩ := fix?_eq_some_iff.1 h
    cases hi
    exact ⟨htype, vs, hv, hmissing⟩
  · rintro ⟨htype, vs, hv, hmissing⟩
    exact ⟨_, fix?_eq_some_iff.2 ⟨i, vs, rfl, htype, hv, hmissing, rfl⟩⟩

theorem id_of_fix? (h : w.fix? source e = some d) : d.id = e.id := by
  obtain ⟨i, vs, rfl, -, -, -, rfl⟩ := fix?_eq_some_iff.1 h
  rfl

/-! ### One instance under several handlers -/

def dropMissing (source : ElementSource) : Value Element → Value Element
  | .sequence vs => .sequence (vs.filter (present source))
  | v => v

theorem dropMissing_dropMissing (v : Value Element) :
    dropMissing source (dropMissing source v) = dropMissing source v := by
  cases v with
  | sequence vs => rw [dropMissing, dropMissing, List.filter_filter]; simp
  | _ => rfl

/-- The second instance is the first one without the missing references in the handled fields. -/
structure Clears (source : ElementSource) (ws : List WeakField) (i j : Instance Element) :
    Prop where
  eq : j = { i with value := j.value }
  keys : Assoc.keys j.value = Assoc.keys i.value
  get? : ∀ key, j.get? key = (i.get? key).map fun v =>
    if ⟨i.typeName, key⟩ ∈ ws then dropMissing source v else v

theorem Clears.typeName (h : Clears source ws i j) : j.typeName = i.typeName := by
  rw [h.eq]
  rfl

theorem Clears.refl (source : ElementSource) (i : Instance Element) : Clears source [] i i :=
  ⟨rfl, rfl, by simp⟩

theorem Clears.append (h : Clears source ws i j) (h' : Clears source us j k) :
    Clears source (ws ++ us) i k := by
  refine ⟨by rw [h'.eq, h.eq], h'.keys.trans h.keys, fun key => ?_⟩
  rw [h'.get?, h.get?, h.typeName, Option.map_map]
  congr 1
  funext v
  by_cases hus : ⟨i.typeName, key⟩ ∈ us <;> by_cases hws : ⟨i.typeName, key⟩ ∈ ws <;>
    simp [hus, hws, dropMissing_dropMissing]

/-- Where a handler finds nothing, there is nothing to drop. -/
theorem dropMissing_of_fix?_eq_none (h : w.fix? source (.inst i) = none)
    (htype : i.typeName = w.typeName) {v : Value Element} (hv : i.get? w.field = some v) :
    dropMissing source v = v := by
  cases v with
  | sequence vs =>
    have hnone := mt isSome_fix?_inst_iff.2 (by simp [h] : ¬ (w.fix? source (.inst i)).isSome)
    have hpresent : ∀ v ∈ vs, present source v := by
      intro v hmem
      by_contra hmissing
      exact hnone ⟨htype, vs, hv, v, hmem, hmissing⟩
    rw [dropMissing, List.filter_eq_self.2 hpresent]
  | _ => rfl

theorem exists_clears_singleton (source : ElementSource) (w : WeakField) (i : Instance Element) :
    ∃ j, (w.fix? source (.inst i)).getD (.inst i) = .inst j ∧ Clears source [w] i j := by
  have hfield : ∀ key, (⟨i.typeName, key⟩ : WeakField) ∈ [w] ↔
      i.typeName = w.typeName ∧ key = w.field := by
    intro key
    rw [List.mem_singleton, WeakField.mk.injEq]
  cases h : w.fix? source (.inst i) with
  | none =>
    refine ⟨i, rfl, rfl, rfl, fun key => ?_⟩
    cases hv : i.get? key with
    | none => rfl
    | some v =>
      rw [Option.map_some]
      split
      case isTrue hmem =>
        obtain ⟨htype, rfl⟩ := (hfield key).1 hmem
        rw [dropMissing_of_fix?_eq_none h htype hv]
      case isFalse => rfl
  | some d =>
    obtain ⟨i', vs, hi, htype, hv, -, rfl⟩ := fix?_eq_some_iff.1 h
    cases hi
    refine ⟨_, rfl, rfl, Assoc.keys_put_of_mem (Instance.mem_keys_of_get? hv) _, fun key => ?_⟩
    rw [Instance.get?_set]
    by_cases hkey : key = w.field
    · rw [if_pos hkey, hkey, hv, Option.map_some, if_pos ((hfield _).2 ⟨htype, rfl⟩), dropMissing]
    · have hmem : ⟨i.typeName, key⟩ ∉ [w] := fun hmem => hkey ((hfield key).1 hmem).2
      simp only [if_neg hkey, if_neg hmem, Option.map_id']

def fixAll (source : ElementSource) (ws : List WeakField) (e : Element) : Element :=
  ws.foldl (fun e w => (w.fix? source e).getD e) e

theorem exists_clears (source : ElementSource) (ws : List WeakField) (i : Instance Element) :
    ∃ j, fixAll source ws (.inst i) = .inst j ∧ Clears source ws i j := by
  induction ws generalizing i with
  | nil => exact ⟨i, rfl, .refl source i⟩
  | cons w ws ih =>
    obtain ⟨j, hfirst, hj⟩ := exists_clears_singleton source w i
    obtain ⟨k, hrest, hk⟩ := ih j
    refine ⟨k, ?_, hj.append hk⟩
    rw [fixAll, List.foldl_cons, hfirst]
    exact hrest

theorem fixAll_of_fix?_eq_none (h : ∀ w ∈ ws, w.fix? source e = none) : fixAll source ws e = e := by
  induction ws with
  | nil => rfl
  | cons w ws ih =>
    rw [fixAll, List.foldl_cons, h w List.mem_cons_self]
    exact ih fun w' hw' => h w' (List.mem_cons_of_mem w hw')

@[simp] theorem id_fixAll (source : ElementSource) (ws : List WeakField) (e : Element) :
    (fixAll source ws e).id = e.id := by
  induction ws generalizing e with
  | nil => rfl
  | cons w ws ih =>
    rw [fixAll, List.foldl_cons]
    refine (ih _).trans ?_
    cases h : w.fix? source e with
    | none => rfl
    | some d => exact id_of_fix? h

/-- A handler finds what it would have found at the start, unless the same one has come before. -/
theorem isSome_fix?_fixAll_iff :
    (w.fix? source (fixAll source ws e)).isSome ↔ (w.fix? source e).isSome ∧ w ∉ ws := by
  cases e with
  | inst i =>
    obtain ⟨j, hfix, hj⟩ := exists_clears source ws i
    rw [hfix, isSome_fix?_inst_iff, isSome_fix?_inst_iff, hj.typeName, hj.get?, and_assoc,
      and_congr_right_iff]
    intro htype
    rw [htype]
    by_cases hmem : w ∈ ws
    · -- the handled field has lost what could be found
      refine iff_of_false ?_ fun h => h.2 hmem
      rintro ⟨vs, hvs, v, hv, hmissing⟩
      obtain ⟨u, -, hu⟩ := Option.map_eq_some_iff.1 hvs
      rw [if_pos hmem] at hu
      cases u with
      | sequence us =>
        cases hu
        exact hmissing (List.mem_filter.1 hv).2
      | _ => cases hu
    · rw [and_iff_left hmem]
      simp only [if_neg hmem, Option.map_id']
  | _ =>
    rw [fixAll_of_fix?_eq_none fun w _ => fix?_of_inst?_eq_none rfl, fix?_of_inst?_eq_none rfl]
    simp

/-! ### What the handlers report -/

def isReported (source : ElementSource) (ws : List WeakField) (es : List Element)
    (place : ElementId) : Bool :=
  ws.any fun w => (w.occurrences es).any fun o => o.place = place && (source o.target).isNone

theorem mem_occurrences_iff {es : List Element} {o : Occurrence} : o ∈ w.occurrences es ↔
    ∃ i, .inst i ∈ es ∧ i.typeName = w.typeName ∧ ∃ vs, i.get? w.field = some (.sequence vs) ∧
      ∃ (n : Nat) (r : Reference Element), vs[n]? = some (.reference r) ∧
        o = ⟨i.id.nest [w.field, toString n], r.target⟩ := by
  rw [occurrences, List.mem_flatMap]
  constructor
  · rintro ⟨e, he, ho⟩
    obtain ⟨⟨v, n⟩, hmem, ho⟩ := List.mem_filterMap.1 ho
    cases hvs : w.entries? e with
    | none => simp [hvs] at hmem
    | some vs =>
      obtain ⟨i, rfl, htype, hv⟩ := entries?_eq_some_iff.1 hvs
      rw [hvs, Option.getD_some, List.mem_zipIdx_iff_getElem?] at hmem
      obtain ⟨r, hr, ho⟩ := Option.bind_eq_some_iff.1 ho
      cases v with
      | reference q =>
        cases hr
        exact ⟨i, he, htype, vs, hv, n, r, hmem, (Option.some.inj ho).symm⟩
      | _ => cases hr
  · rintro ⟨i, he, htype, vs, hv, n, r, hr, rfl⟩
    refine ⟨.inst i, he, List.mem_filterMap.2 ⟨(.reference r, n), ?_, rfl⟩⟩
    rw [entries?_eq_some_iff.2 ⟨i, rfl, htype, hv⟩, Option.getD_some, List.mem_zipIdx_iff_getElem?]
    exact hr

theorem isReported_iff {es : List Element} {place : ElementId} : isReported source ws es place ↔
    ∃ i, .inst i ∈ es ∧ ∃ key, ⟨i.typeName, key⟩ ∈ ws ∧ ∃ vs, i.get? key = some (.sequence vs) ∧
      ∃ (n : Nat) (r : Reference Element), vs[n]? = some (.reference r) ∧
        source r.target = none ∧ place = i.id.nest [key, toString n] := by
  simp only [isReported, List.any_eq_true, Bool.and_eq_true, decide_eq_true_eq,
    Option.isNone_iff_eq_none, mem_occurrences_iff]
  constructor
  · rintro ⟨w, hw, o, ⟨i, hi, htype, vs, hv, n, r, hr, rfl⟩, rfl, hsource⟩
    exact ⟨i, hi, w.field, htype ▸ hw, vs, hv, n, r, hr, hsource, rfl⟩
  · rintro ⟨i, hi, key, hw, vs, hv, n, r, hr, hsource, rfl⟩
    exact ⟨_, hw, _, ⟨i, hi, rfl, vs, hv, n, r, hr, rfl⟩, rfl, hsource⟩

theorem inst_eq_of_id_eq {es : List Element} (hids : (es.map Element.id).Nodup)
    (hi : .inst i ∈ es) (hj : .inst j ∈ es) (hid : i.id = j.id) : i = j :=
  Element.inst.inj (List.inj_on_of_nodup_map hids hi hj hid)

/-- Among elements of distinct ids a place tells the instance, the field and the position. -/
theorem isReported_nest_iff {es : List Element} (hids : (es.map Element.id).Nodup)
    (hi : .inst i ∈ es) {key : String} {n : Nat} :
    isReported source ws es (i.id.nest [key, toString n]) ↔
      ⟨i.typeName, key⟩ ∈ ws ∧ ∃ vs r, i.get? key = some (.sequence vs) ∧
        vs[n]? = some (.reference r) ∧ source r.target = none := by
  rw [isReported_iff]
  constructor
  · rintro ⟨j, hj, key', hw, vs, hv, m, r, hr, hsource, hplace⟩
    have htop := congrArg ElementId.topLevel hplace
    rw [ReferenceIndex.topLevel_nest_id, ReferenceIndex.topLevel_nest_id, Prod.mk.injEq] at htop
    obtain ⟨hid, hpath⟩ := htop
    obtain rfl := inst_eq_of_id_eq hids hi hj hid
    obtain ⟨rfl, hposition⟩ := List.cons.inj hpath
    obtain rfl := Nat.repr_inj.1 (List.cons.inj hposition).1
    exact ⟨hw, vs, r, hv, hr, hsource⟩
  · rintro ⟨hw, vs, r, hv, hr, hsource⟩
    exact ⟨i, hi, key, hw, vs, hv, n, r, hr, hsource, rfl⟩

theorem not_present_iff {v : Value Element} :
    ¬ present source v ↔ ∃ r, v = .reference r ∧ source r.target = none := by
  cases v with
  | reference r => simp [present, Value.reference?]
  | _ => simp [present, Value.reference?]

/-- The items that go are those that are reported. -/
theorem withoutItems_isReported {es : List Element} (hids : (es.map Element.id).Nodup)
    (hi : .inst i ∈ es) {key : String} {v : Value Element} (hv : i.get? key = some v) :
    (v.withoutItems fun n => isReported source ws es (i.id.nest [key, toString n])) =
      if ⟨i.typeName, key⟩ ∈ ws then dropMissing source v else v := by
  cases v with
  | sequence vs =>
    have hreported : ∀ p ∈ vs.zipIdx, isReported source ws es (i.id.nest [key, toString p.2]) ↔
        ⟨i.typeName, key⟩ ∈ ws ∧ ¬ present source p.1 := by
      rintro ⟨v, n⟩ hp
      have hitem : vs[n]? = some v := List.mem_zipIdx_iff_getElem?.1 hp
      rw [isReported_nest_iff hids hi, not_present_iff, hv]
      simp [hitem]
    rw [Value.withoutItems]
    split
    case isTrue hmem =>
      have hkept : vs.zipIdx.filter
            (fun p => !isReported source ws es (i.id.nest [key, toString p.2])) =
          vs.zipIdx.filter (present source ∘ Prod.fst) := by
        refine List.filter_congr fun p hp => ?_
        rw [Function.comp_apply, Bool.eq_iff_iff, Bool.not_eq_true', ← Bool.not_eq_true,
          hreported p hp, and_iff_right hmem, Classical.not_not]
      rw [hkept, ← List.filter_map, List.zipIdx_map_fst, dropMissing]
    case isFalse hmem =>
      have hkept : ∀ p ∈ vs.zipIdx, (!isReported source ws es (i.id.nest [key, toString p.2])) := by
        intro p hp
        rw [Bool.not_eq_true', ← Bool.not_eq_true, hreported p hp]
        exact fun h => hmem h.1
      rw [List.filter_eq_self.2 hkept, List.zipIdx_map_fst]
  | _ => simp [Value.withoutItems, dropMissing]

/-- A handler has something to fix in an element just when one reports a place in it. -/
theorem exists_isSome_fix?_iff {es : List Element} (hids : (es.map Element.id).Nodup)
    (he : e ∈ es) :
    (∃ w ∈ ws, (w.fix? source e).isSome) ↔
      ∃ place, place.topLevel.1 = e.id ∧ isReported source ws es place := by
  constructor
  · rintro ⟨w, hw, hfix⟩
    cases e with
    | inst i =>
      obtain ⟨htype, vs, hv, v, hmem, hmissing⟩ := isSome_fix?_inst_iff.1 hfix
      obtain ⟨r, rfl, hsource⟩ := not_present_iff.1 hmissing
      obtain ⟨n, hn⟩ := List.mem_iff_getElem?.1 hmem
      exact ⟨i.id.nest [w.field, toString n], rfl,
        isReported_iff.2 ⟨i, he, w.field, htype ▸ hw, vs, hv, n, r, hn, hsource, rfl⟩⟩
    | _ =>
      rw [fix?_of_inst?_eq_none rfl] at hfix
      cases hfix
  · rintro ⟨place, hplace, hreported⟩
    obtain ⟨i, hi, key, hw, vs, hv, n, r, hr, hsource, rfl⟩ := isReported_iff.1 hreported
    obtain rfl : Element.inst i = e := List.inj_on_of_nodup_map hids hi he hplace
    exact ⟨_, hw, isSome_fix?_inst_iff.2 ⟨rfl, vs, hv, .reference r, List.mem_of_getElem? hr,
      not_present_iff.2 ⟨r, rfl, hsource⟩⟩⟩

end WeakField

end ElementSync
