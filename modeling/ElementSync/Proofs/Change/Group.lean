import ElementSync.Change.Group
import ElementSync.Proofs.Filter.Deploy
import ElementSync.Proofs.Identified
import Mathlib.Data.List.Basic
import Mathlib.Data.List.Induction

/-!
# Groups in the order of their first changes

Grouping sorts no change out and keeps the order of changes within a group. The groups stand in
the order in which their first changes stand in the list, whatever their changes refer to.
-/

namespace ElementSync

/-- In a list that a number orders strictly, of two members the smaller one stands first. -/
theorem pair_sublist_of_pairwise_lt {α : Type} {n : α → Nat} {l : List α}
    (hl : l.Pairwise fun a b => n a < n b) {a b : α} (ha : a ∈ l) (hb : b ∈ l)
    (hab : n a < n b) : [a, b].Sublist l := by
  induction l with
  | nil => cases ha
  | cons c l ih =>
    obtain ⟨hc, hl⟩ := List.pairwise_cons.1 hl
    rcases List.mem_cons.1 ha with rfl | ha'
    · rcases List.mem_cons.1 hb with rfl | hb'
      · exact absurd hab (Nat.lt_irrefl _)
      · exact (List.singleton_sublist.2 hb').cons_cons a
    · rcases List.mem_cons.1 hb with rfl | hb'
      · exact absurd (hc a ha') (Nat.lt_asymm hab)
      · exact (ih hl ha' hb').cons c

namespace ChangeGroup

def additionsOf (typeName : String) : String :=
  if typeName = Approval.ruleType || typeName = Approval.conditionType then approval
  else Action.word .add ++ "_" ++ typeName ++ "_instances"

theorem idOf_addition {i : Instance Element} (h : i.isRecord) :
    idOf (.addition (.inst i)) = additionsOf i.typeName := by
  simp [idOf, additionsOf, Change.data, Change.action, h]

theorem head?_additionsOf (typeName : String) :
    (additionsOf typeName).toList.head? = some 'a' := by
  unfold additionsOf
  split
  · rfl
  · simp [Action.word]

/-- Only additions of records are grouped with additions of records. -/
theorem exists_addition_of_idOf {c : Change Element} {typeName : String}
    (h : idOf c = additionsOf typeName) :
    ∃ i : Instance Element, c = .addition (.inst i) ∧ i.isRecord := by
  have hhead := head?_additionsOf typeName
  rw [← h] at hhead
  have hmetadata : metadataGroup.toList.head? ≠ some 'a' := by decide
  cases hdata : c.data with
  | objectType t => simp only [idOf, hdata] at hhead; exact absurd hhead hmetadata
  | field f => simp only [idOf, hdata] at hhead; exact absurd hhead hmetadata
  | inst i =>
    by_cases hrecord : i.isRecord
    case neg => simp [idOf, hdata, hrecord, metadataGroup] at hhead
    case pos =>
      cases c with
      | addition a =>
        cases hdata
        exact ⟨i, rfl, hrecord⟩
      | removal b => simp [idOf, hdata, hrecord, Change.action, Action.word] at hhead
      | modification b a => simp [idOf, hdata, hrecord, Change.action, Action.word] at hhead

theorem eq_labelType_of_additionsOf {typeName : String}
    (h : additionsOf typeName = additionsOf Labels.labelType) : typeName = Labels.labelType := by
  have hlabels : additionsOf Labels.labelType = "add_" ++ Labels.labelType ++ "_instances" := by
    decide
  rw [hlabels, additionsOf] at h
  split at h
  · exact absurd h (by decide)
  · exact (String.append_right_inj "add_").1 ((String.append_left_inj "_instances").1 h)

def table (cs : List (Change Element)) : Assoc String (List (Change Element)) :=
  cs.foldl (fun m c => Assoc.put m (idOf c) ((m.lookup (idOf c)).getD [] ++ [c])) []

def withId (cs : List (Change Element)) (i : String) : ChangeGroup := ⟨i, cs.filter (idOf · = i)⟩

theorem table_concat (cs : List (Change Element)) (c : Change Element) :
    table (cs ++ [c]) =
      Assoc.put (table cs) (idOf c) (((table cs).lookup (idOf c)).getD [] ++ [c]) := by
  rw [table, List.foldl_append]
  rfl

theorem keys_table_concat (cs : List (Change Element)) (c : Change Element) :
    Assoc.keys (table (cs ++ [c])) =
      if idOf c ∈ Assoc.keys (table cs) then Assoc.keys (table cs)
      else Assoc.keys (table cs) ++ [idOf c] := by
  rw [table_concat]
  split
  case isTrue h => rw [Assoc.keys_put_of_mem h]
  case isFalse h => rw [Assoc.keys_put_of_notMem h]

variable (cs : List (Change Element))

theorem mem_keys_table {i : String} : i ∈ Assoc.keys (table cs) ↔ i ∈ cs.map idOf := by
  induction cs using List.reverseRecOn with
  | nil => simp [table, Assoc.keys]
  | append_singleton cs c ih =>
    rw [keys_table_concat, List.map_append, List.mem_append, ← ih]
    split
    case isTrue h =>
      constructor
      · exact Or.inl
      · rintro (hi | hi)
        · exact hi
        · rwa [List.mem_singleton.1 hi]
    case isFalse h => rw [List.mem_append]; rfl

theorem lookup_table (i : String) :
    (table cs).lookup i = if i ∈ cs.map idOf then some (withId cs i).changes else none := by
  induction cs using List.reverseRecOn with
  | nil => simp [table]
  | append_singleton cs c ih =>
    rw [table_concat, Assoc.lookup_put, withId, List.filter_append]
    by_cases hi : i = idOf c
    · subst hi
      have hnew : idOf c ∉ cs.map idOf → cs.filter (idOf · = idOf c) = [] := by
        intro hnot
        rw [List.filter_eq_nil_iff]
        intro d hd heq
        exact hnot (List.mem_map.2 ⟨d, hd, of_decide_eq_true heq⟩)
      rw [if_pos rfl, if_pos (by simp), ih]
      split
      case isTrue h => simp [withId]
      case isFalse h => simp [hnew h]
    · simp [ih, hi, Ne.symm hi, withId]

/-- The groups stand in the order of their first changes. -/
theorem pairwise_keys_table :
    (Assoc.keys (table cs)).Pairwise fun i j =>
      (cs.map idOf).idxOf i < (cs.map idOf).idxOf j := by
  induction cs using List.reverseRecOn with
  | nil => exact List.Pairwise.nil
  | append_singleton cs c ih =>
    have hkept : ∀ i ∈ Assoc.keys (table cs),
        ((cs ++ [c]).map idOf).idxOf i = (cs.map idOf).idxOf i := by
      intro i hi
      rw [List.map_append, List.idxOf_append_of_mem ((mem_keys_table cs).1 hi)]
    have hbefore : (Assoc.keys (table cs)).Pairwise fun i j =>
        ((cs ++ [c]).map idOf).idxOf i < ((cs ++ [c]).map idOf).idxOf j := by
      apply ih.imp_of_mem
      intro i j hi hj hlt
      rwa [hkept i hi, hkept j hj]
    rw [keys_table_concat]
    split
    case isTrue h => exact hbefore
    case isFalse h =>
      refine List.pairwise_append.2 ⟨hbefore, List.pairwise_singleton _ _, ?_⟩
      intro i hi j hj
      rw [List.mem_singleton.1 hj, hkept i hi, List.map_append,
        List.idxOf_append_of_notMem (mt (mem_keys_table cs).2 h)]
      have hlt := List.idxOf_lt_length_iff.2 ((mem_keys_table cs).1 hi)
      omega

theorem nodup_keys_table : (Assoc.keys (table cs)).Nodup :=
  (pairwise_keys_table cs).imp fun hlt heq => by simp [heq] at hlt

theorem ofChanges_eq : ofChanges cs = (Assoc.keys (table cs)).map (withId cs) := by
  have hnodup := nodup_keys_table cs
  have hentry : ∀ e ∈ table cs, e.2 = (withId cs e.1).changes := by
    intro e he
    have hlookup := Assoc.lookup_of_mem hnodup he
    rw [lookup_table, Option.ite_none_right_eq_some] at hlookup
    exact (Option.some.inj hlookup.2).symm
  rw [Assoc.keys, List.map_map]
  apply List.map_congr_left
  intro e he
  exact congrArg (ChangeGroup.mk e.1) (hentry e he)

variable {cs}

section
variable {q : Instance Element} (hq : q.isRecord)
include hq

/-- Labels are grouped with labels only. -/
theorem lacks_labelType_withId (htype : q.typeName ≠ Labels.labelType) :
    Labels.Lacks Labels.labelType (withId cs (idOf (.addition (.inst q)))).changes := by
  intro c hc
  have hid : idOf c = additionsOf q.typeName := by
    rw [of_decide_eq_true (List.mem_filter.1 hc).2, idOf_addition hq]
  obtain ⟨i, rfl, hrecord⟩ := exists_addition_of_idOf hid
  rw [idOf_addition hrecord] at hid
  refine decide_eq_false ?_
  intro hlabel
  rw [hlabel] at hid
  exact htype (eq_labelType_of_additionsOf hid.symm)

/-- A record of another group has another id. -/
theorem id_ne_of_mem_withId {p : Instance Element} (hp : p.isRecord)
    (hne : idOf (.addition (.inst p)) ≠ idOf (.addition (.inst q))) {c : Change Element}
    (hc : c ∈ (withId cs (idOf (.addition (.inst q)))).changes) : c.id ≠ p.id := by
  have hid : idOf c = additionsOf q.typeName := by
    rw [of_decide_eq_true (List.mem_filter.1 hc).2, idOf_addition hq]
  obtain ⟨i, rfl, hrecord⟩ := exists_addition_of_idOf hid
  intro heq
  have htype : i.typeName = p.typeName := by
    have htypes := congrArg ElementId.typeName heq
    exact htypes
  rw [idOf_addition hrecord, htype] at hid
  exact hne (by rw [idOf_addition hp, idOf_addition hq, hid])

end

/-- Of two groups the one whose first change comes first goes first. -/
theorem pair_sublist_ofChanges {c d : Change Element} (hc : c ∈ cs) (hd : d ∈ cs)
    (h : (cs.map idOf).idxOf (idOf c) < (cs.map idOf).idxOf (idOf d)) :
    [withId cs (idOf c), withId cs (idOf d)].Sublist (ofChanges cs) := by
  rw [ofChanges_eq]
  have hpair := pair_sublist_of_pairwise_lt (pairwise_keys_table cs)
    ((mem_keys_table cs).2 (List.mem_map_of_mem hc))
    ((mem_keys_table cs).2 (List.mem_map_of_mem hd)) h
  exact hpair.map (withId cs)

/-- The first change of a group stands where the id of the group first comes up. -/
theorem getElem?_findIdx_idOf (i : String) :
    cs[cs.findIdx (idOf · = i)]? = (withId cs i).changes.head? := by
  rw [withId, List.head?_filter]
  induction cs with
  | nil => rfl
  | cons c cs ih =>
    rw [List.findIdx_cons, List.find?_cons]
    by_cases hc : idOf c = i
    · simp [hc]
    · simpa [hc] using ih

/-- Grouping is a stable partition. No group is empty and no two have one id; a group has the
changes with its id as they stand in the list, the groups stand in the order of their first changes,
and together they have each change as often as the list. -/
theorem ofChanges_stable_partition (cs : List (Change Element)) :
    let groups := ofChanges cs
    (∀ g ∈ groups, g.changes ≠ [] ∧ (∀ c ∈ g.changes, idOf c = g.id) ∧
      g.changes = cs.filter (idOf · = g.id) ∧
      g.changes.head? = cs[cs.findIdx (idOf · = g.id)]?) ∧
    (groups.map ChangeGroup.id).Nodup ∧
    (groups.Pairwise fun g h => cs.findIdx (idOf · = g.id) < cs.findIdx (idOf · = h.id)) ∧
    (groups.flatMap ChangeGroup.changes).Perm cs := by
  intro groups
  have hgroups : groups = (Assoc.keys (table cs)).map (withId cs) := ofChanges_eq cs
  refine ⟨fun g hg => ?_, ?_, ?_, ?_⟩
  · obtain ⟨i, hi, rfl⟩ := List.mem_map.1 (hgroups ▸ hg)
    obtain ⟨c, hc, hid⟩ := List.mem_map.1 ((mem_keys_table cs).1 hi)
    have hmem : c ∈ (withId cs i).changes := List.mem_filter.2 ⟨hc, decide_eq_true hid⟩
    refine ⟨List.ne_nil_of_mem hmem, fun d hd => ?_, rfl, (getElem?_findIdx_idOf i).symm⟩
    exact of_decide_eq_true (List.mem_filter.1 hd).2
  · have hids : groups.map ChangeGroup.id = Assoc.keys (table cs) := by
      rw [hgroups, List.map_map]
      exact List.map_id _
    rw [hids]
    exact nodup_keys_table cs
  · have hfirst : ∀ i, (cs.map idOf).idxOf i = cs.findIdx (idOf · = i) := fun i => by
      rw [List.idxOf, List.findIdx_map]
      rfl
    rw [hgroups, List.pairwise_map]
    refine (pairwise_keys_table cs).imp fun {i j} hlt => ?_
    rwa [hfirst, hfirst] at hlt
  · have hcovered : ∀ c ∈ cs, idOf c ∈ Assoc.keys (table cs) := fun c hc =>
      (mem_keys_table cs).2 (List.mem_map_of_mem hc)
    rw [hgroups, List.flatMap_map]
    exact flatMap_filter_perm (nodup_keys_table cs) hcovered

end ChangeGroup

end ElementSync
