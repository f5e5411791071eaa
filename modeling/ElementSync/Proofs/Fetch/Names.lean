import ElementSync.Proofs.Fetch.Arrival
import Mathlib.Data.List.Induction

/-!
# Names of records

A record is named plainly, or, where that name is already given, by the plain name and its
identifier. Records whose names are extended are told apart by their identifiers, which hold no
underscore. But whether the extended name is free is not asked, and it is not when an earlier record
is called so plainly. That is the only way in which two records get one name.
-/

namespace ElementSync

namespace Record

/-- The name of a record whose plain name is taken. -/
def extendedName (r : Record) : String := plainName r ++ "_" ++ recordId r

theorem elementName_of_mem {taken : List String} {r : Record} (h : plainName r ∈ taken) :
    elementName taken r = extendedName r := by
  simp [elementName, extendedName, h]

theorem elementName_of_notMem {taken : List String} {r : Record} (h : plainName r ∉ taken) :
    elementName taken r = plainName r := by
  simp [elementName, h]

/-- The name of a record is new unless the plain and the extended one are both taken. -/
theorem elementName_mem_iff {taken : List String} {r : Record} :
    elementName taken r ∈ taken ↔ plainName r ∈ taken ∧ extendedName r ∈ taken := by
  by_cases h : plainName r ∈ taken
  · rw [elementName_of_mem h, and_iff_right h]
  · rw [elementName_of_notMem h]
    simp [h]

/-! ### Names given one after the other -/

theorem elementNames_append (taken : List String) (rs ss : List Record) :
    elementNames taken (rs ++ ss) =
      elementNames taken rs ++ elementNames ((elementNames taken rs).reverse ++ taken) ss := by
  induction rs generalizing taken with
  | nil => rfl
  | cons r rs ih => simp [elementNames, ih]

theorem elementNames_concat (rs : List Record) (r : Record) :
    elementNames [] (rs ++ [r]) =
      elementNames [] rs ++ [elementName (elementNames [] rs).reverse r] := by
  rw [elementNames_append, List.append_nil, elementNames, elementNames]

/-- A record gets its plain name, unless another has it already. -/
theorem plainName_mem_elementNames {taken : List String} {rs : List Record} {r : Record}
    (hr : r ∈ rs) : plainName r ∈ taken ∨ plainName r ∈ elementNames taken rs := by
  induction rs generalizing taken with
  | nil => cases hr
  | cons q rs ih =>
    rw [elementNames, List.mem_cons]
    rcases List.mem_cons.1 hr with rfl | hr
    · by_cases h : plainName r ∈ taken
      · exact .inl h
      · exact .inr (.inl (elementName_of_notMem h).symm)
    · have hnext : plainName r ∈ elementName taken q :: taken ∨
          plainName r ∈ elementNames (elementName taken q :: taken) rs := ih hr
      rcases hnext with htaken | hgiven
      · exact (List.mem_cons.1 htaken).elim (fun h => .inr (.inl h)) .inl
      · exact .inr (.inr hgiven)

theorem exists_of_mem_elementNames {taken : List String} {rs : List Record} {name : String}
    (h : name ∈ elementNames taken rs) : ∃ r ∈ rs, name = plainName r ∨ name = extendedName r := by
  induction rs generalizing taken with
  | nil => cases h
  | cons q rs ih =>
    rw [elementNames, List.mem_cons] at h
    rcases h with rfl | h
    · refine ⟨q, List.mem_cons_self, ?_⟩
      by_cases hq : plainName q ∈ taken
      · exact .inr (elementName_of_mem hq)
      · exact .inl (elementName_of_notMem hq)
    · obtain ⟨r, hr, hname⟩ := ih h
      exact ⟨r, List.mem_cons_of_mem q hr, hname⟩

/-! ### Names with identifiers -/

structure Identified (rs : List Record) : Prop where
  distinct : (rs.map recordId).Nodup
  plain : ∀ r ∈ rs, (recordId r).toList.all Char.isAlphanum

theorem Identified.underscore_notMem {rs : List Record} (h : Identified rs) {r : Record}
    (hr : r ∈ rs) : '_' ∉ (recordId r).toList :=
  fun hmem => absurd (List.all_eq_true.1 (h.plain r hr) '_' hmem) (by decide)

/-- The identifier is what stands behind the last underscore. -/
theorem takeWhile_reverse_extendedName {r : Record} (hr : '_' ∉ (recordId r).toList) :
    (extendedName r).toList.reverse.takeWhile (· ≠ '_') = (recordId r).toList.reverse := by
  have hid : ∀ c ∈ (recordId r).toList.reverse, decide (c ≠ '_') = true := by
    intro c hc
    exact decide_eq_true fun h => hr (h ▸ List.mem_reverse.1 hc)
  have hmark : "_".toList = ['_'] := rfl
  rw [extendedName, String.toList_append, String.toList_append, List.reverse_append, hmark,
    List.takeWhile_append_of_pos hid]
  simp

theorem recordId_eq_of_extendedName_eq {r q : Record} (hr : '_' ∉ (recordId r).toList)
    (hq : '_' ∉ (recordId q).toList) (h : extendedName r = extendedName q) :
    recordId r = recordId q := by
  have hreverse : (recordId r).toList.reverse = (recordId q).toList.reverse := by
    rw [← takeWhile_reverse_extendedName hr, ← takeWhile_reverse_extendedName hq, h]
  exact String.toList_inj.1 (List.reverse_injective hreverse)

theorem Identified.of_concat {rs : List Record} {r : Record} (h : Identified (rs ++ [r])) :
    Identified rs where
  distinct := by
    have hids := h.distinct
    rw [List.map_append] at hids
    exact (List.nodup_append.1 hids).1
  plain q hq := h.plain q (List.mem_append_left _ hq)

theorem Identified.recordId_ne {rs : List Record} {r : Record} (h : Identified (rs ++ [r]))
    {q : Record} (hq : q ∈ rs) : recordId q ≠ recordId r := by
  have hids := h.distinct
  rw [List.map_append] at hids
  exact (List.nodup_append.1 hids).2.2 _ (List.mem_map_of_mem hq) _ List.mem_cons_self

/-- The extended name of the next record is taken only as the plain name of an earlier one. -/
theorem Identified.extendedName_mem_iff {rs : List Record} {r : Record}
    (h : Identified (rs ++ [r])) :
    extendedName r ∈ elementNames [] rs ↔ extendedName r ∈ rs.map plainName := by
  have hr : r ∈ rs ++ [r] := List.mem_append_right _ List.mem_cons_self
  constructor
  · intro hmem
    obtain ⟨q, hq, hplain | hextended⟩ := exists_of_mem_elementNames hmem
    · exact List.mem_map.2 ⟨q, hq, hplain.symm⟩
    · have hid := recordId_eq_of_extendedName_eq (h.underscore_notMem hr)
        (h.underscore_notMem (List.mem_append_left _ hq)) hextended
      exact absurd hid.symm (h.recordId_ne hq)
  · intro hmem
    obtain ⟨q, hq, hname⟩ := List.mem_map.1 hmem
    rw [← hname]
    exact (plainName_mem_elementNames hq).resolve_left List.not_mem_nil

/-- No record whose plain name is given is extended to the plain name of an earlier one. -/
def ExtendFreely (rs : List Record) : Prop :=
  ∀ earlier r later, rs = earlier ++ r :: later → plainName r ∈ elementNames [] earlier →
    extendedName r ∉ earlier.map plainName

theorem extendFreely_concat_iff {rs : List Record} {r : Record} :
    ExtendFreely (rs ++ [r]) ↔ ExtendFreely rs ∧
      (plainName r ∈ elementNames [] rs → extendedName r ∉ rs.map plainName) := by
  constructor
  · intro h
    refine ⟨fun earlier q later hrs => ?_, h rs r [] rfl⟩
    exact h earlier q (later ++ [r]) (by rw [hrs, List.append_assoc, List.cons_append])
  · rintro ⟨hrs, hr⟩ earlier q later heq
    rcases List.eq_nil_or_concat later with rfl | ⟨later, p, rfl⟩
    · obtain ⟨rfl, hq⟩ := List.append_inj' heq rfl
      cases hq
      exact hr
    · rw [List.concat_eq_append, ← List.cons_append, ← List.append_assoc] at heq
      exact hrs earlier q later (List.append_inj' heq rfl).1

theorem nodup_elementNames_iff {rs : List Record} (h : Identified rs) :
    (elementNames [] rs).Nodup ↔ ExtendFreely rs := by
  induction rs using List.reverseRecOn with
  | nil => exact iff_of_true List.nodup_nil fun earlier r later h => by simp at h
  | append_singleton rs r ih =>
    have hnew : elementName (elementNames [] rs).reverse r ∉ elementNames [] rs ↔
        (plainName r ∈ elementNames [] rs → extendedName r ∉ rs.map plainName) := by
      have hmem := @elementName_mem_iff (elementNames [] rs).reverse r
      rw [List.mem_reverse, List.mem_reverse, List.mem_reverse, h.extendedName_mem_iff] at hmem
      rw [hmem, not_and]
    rw [elementNames_concat, ← List.concat_eq_append, List.nodup_concat, extendFreely_concat_iff,
      ← ih h.of_concat, and_comm, hnew]

end Record

/-! ### Instances of records -/

theorem ObjectType.map_id_instances (t : ObjectType Element) (rs : List Record) :
    (t.instances rs).map (·.id) =
      (Record.elementNames [] rs).map (.inst t.id.adapter t.id.typeName) := by
  have hnames : ∀ taken, (List.zipWith (Record.toInstance t) rs
      (Record.elementNames taken rs)).map (·.id) =
        (Record.elementNames taken rs).map (.inst t.id.adapter t.id.typeName) := by
    induction rs with
    | nil => exact fun _ => rfl
    | cons r rs ih => exact fun taken => congrArg (List.cons _) (ih _)
  exact hnames []

theorem ObjectType.nodup_ids_instances_iff (t : ObjectType Element) (rs : List Record) :
    ((t.instances rs).map (·.id)).Nodup ↔ (Record.elementNames [] rs).Nodup := by
  have hinj : Function.Injective (ElementId.inst t.id.adapter t.id.typeName) := by
    intro a b hab
    simpa [ElementId.inst] using hab
  rw [t.map_id_instances, List.nodup_map_iff hinj]

/-- Records with identifiers of their own get names of their own exactly when no name is extended to
one that is given. Then, and only then, the instances fetched have ids of their own. -/
theorem Record.names_distinct_iff {rs : List Record} (h : Identified rs) :
    ((elementNames [] rs).Nodup ↔ ExtendFreely rs) ∧
      ∀ (t : ObjectType Element) (most : Nat), rs.length ≤ most → ∃ is,
        ({ records := rs } : RecordStream).instances? t most = .ok (some is) ∧
          is.length = rs.length ∧ ((is.map (·.id)).Nodup ↔ ExtendFreely rs) := by
  refine ⟨nodup_elementNames_iff h, fun t most hmost => ⟨t.instances rs, ?_, ?_, ?_⟩⟩
  · rw [RecordStream.instances?, if_neg (Nat.not_lt.2 hmost)]
    rfl
  · exact ((t.forall₂_instances rs).length_eq).symm
  · rw [t.nodup_ids_instances_iff, nodup_elementNames_iff h]

namespace Record

def named (identifier name : String) : Record :=
  [(idField, .string identifier), ("Name", .string name)]

/-- The second is extended to the plain name of the third. -/
def acmes : List Record := [named "001" "Acme", named "002" "Acme", named "003" "Acme 002"]

theorem names_distinct_iff_acmes :
    let accountType : ObjectType Element := { id := .type salesforce "Account" }
    Identified acmes ∧ elementNames [] acmes = ["Acme", "Acme_002", "Acme_002_003"] ∧
      ((elementNames [] acmes).Nodup ↔ ExtendFreely acmes) ∧ ExtendFreely acmes ∧ ∃ is,
        ({ records := acmes } : RecordStream).instances? accountType 3 = .ok (some is) ∧
          is.length = 3 ∧ (is.map (·.id)).Nodup := by
  intro accountType
  have hacmes : Identified acmes := ⟨by decide, by decide⟩
  have hnames : elementNames [] acmes = ["Acme", "Acme_002", "Acme_002_003"] := by
    decide +kernel
  have hdistinct := names_distinct_iff hacmes
  have hfree : ExtendFreely acmes := hdistinct.1.1 (by rw [hnames]; decide)
  obtain ⟨is, hfetched, hlength, hids⟩ := hdistinct.2 accountType 3 (by decide)
  exact ⟨hacmes, hnames, hdistinct.1, hfree, is, hfetched, hlength, hids.2 hfree⟩

/-- The third is extended to the plain name of the first. -/
def clashingAcmes : List Record :=
  [named "003" "Acme 002", named "001" "Acme", named "002" "Acme"]

theorem clashing_names :
    Identified clashingAcmes ∧ (∀ r ∈ clashingAcmes, recordId r ≠ "") ∧
      elementNames [] clashingAcmes = ["Acme_002", "Acme", "Acme_002"] ∧
      ¬ (elementNames [] clashingAcmes).Nodup := by
  have hnames : elementNames [] clashingAcmes = ["Acme_002", "Acme", "Acme_002"] := by
    decide +kernel
  refine ⟨⟨by decide, by decide⟩, by decide, hnames, ?_⟩
  rw [hnames]
  decide

end Record

end ElementSync
