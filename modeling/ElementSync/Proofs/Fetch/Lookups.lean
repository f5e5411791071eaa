import ElementSync.Client.InMemory
import ElementSync.Filter.Basic
import ElementSync.Proofs.Change.Writes
import ElementSync.Proofs.Reference.Identifiers
import ElementSync.Proofs.Value.References
import Mathlib.Data.List.Basic

/-!
# Lookups linked to records

A lookup becomes a reference to the record that has its identifier. The reference carries the
record, so it resolves to this identifier again and linking loses nothing. Where the types of a
lookup share identifiers, the first of them counts.
-/

namespace ElementSync

theorem Resolver.resolveInstance_of_isPlain (resolver : Resolver) {i : Instance Element}
    (h : Values.IsPlain i.value) : resolver.resolveInstance i = i :=
  congrArg (fun vs => { i with value := vs }) (h.mapLeaves_eq fun _ _ => rfl)

theorem Resolution.eq_resolved_of_value? {r : Resolution} {v : Value Element}
    (h : r.value? = some v) : r = .resolved v := by
  cases r with
  | resolved w => rw [Option.some.inj h]
  | _ => cases h

namespace RecordReferences

structure Holds (es : List Element) (typeName id : String) (d : Instance Element) : Prop where
  mem : .inst d ∈ es
  isRecord : d.isRecord
  typeName_eq : d.typeName = typeName
  text?_eq : d.text? idField = some id

section
variable {es : List Element} {typeName id : String}

theorem mem_records {d : Instance Element} :
    d ∈ records es ↔ .inst d ∈ es ∧ d.isRecord ∧ (d.text? idField).isSome := by
  have hinst : d ∈ es.filterMap Element.inst? ↔ .inst d ∈ es := by
    rw [List.mem_filterMap]
    constructor
    · rintro ⟨e, he, hd⟩
      cases e with
      | inst i => cases hd; exact he
      | _ => cases hd
    · exact fun hd => ⟨_, hd, rfl⟩
  rw [records, List.mem_filter, hinst, Bool.and_eq_true]

theorem holds_of_record? {d : Instance Element} (h : record? (records es) typeName id = some d) :
    Holds es typeName id d := by
  have hfound := List.find?_some h
  simp only [Bool.and_eq_true, decide_eq_true_eq] at hfound
  obtain ⟨hmem, hrecord, -⟩ := mem_records.1 (List.mem_reverse.1 (List.mem_of_find?_eq_some h))
  exact ⟨hmem, hrecord, hfound.1, hfound.2⟩

theorem record?_eq_none_iff :
    record? (records es) typeName id = none ↔ ∀ d, ¬ Holds es typeName id d := by
  rw [record?, List.find?_eq_none]
  constructor
  · intro h d hd
    have hmem : d ∈ records es := mem_records.2 ⟨hd.mem, hd.isRecord, by simp [hd.text?_eq]⟩
    exact h d (List.mem_reverse.2 hmem) (by simp [hd.typeName_eq, hd.text?_eq])
  · intro h d hmem hd
    simp only [Bool.and_eq_true, decide_eq_true_eq] at hd
    obtain ⟨hmem, hrecord, -⟩ := mem_records.1 (List.mem_reverse.1 hmem)
    exact h d ⟨hmem, hrecord, hd.1, hd.2⟩

end

/-- The record `i` has in the field the identifier of `d`. Of the types that the field refers to,
that of `d` is the first with such a record. -/
def LeadsTo (es : List Element) (i : Instance Element) (f : Field Element)
    (d : Instance Element) : Prop :=
  ∃ id before typeName after, i.text? f.name = some id ∧
    targetTypes f = before ++ typeName :: after ∧ Holds es typeName id d ∧
      ∀ other ∈ before, ∀ d', ¬ Holds es other id d'

section
variable {es : List Element} {i : Instance Element} {f : Field Element}

theorem leadsTo_of_target? {d : Instance Element} (h : target? (records es) i f = some d) :
    LeadsTo es i f d := by
  obtain ⟨id, hid, hfound⟩ := Option.bind_eq_some_iff.1 h
  obtain ⟨before, typeName, after, htypes, hrecord, hbefore⟩ :=
    List.findSome?_eq_some_iff.1 hfound
  exact ⟨id, before, typeName, after, hid, htypes, holds_of_record? hrecord,
    fun other hother => record?_eq_none_iff.1 (hbefore other hother)⟩

theorem isSome_target? {d : Instance Element} (h : LeadsTo es i f d) :
    (target? (records es) i f).isSome := by
  obtain ⟨id, before, typeName, after, hid, htypes, hd, -⟩ := h
  have hrecord : record? (records es) typeName id ≠ none :=
    fun hnone => record?_eq_none_iff.1 hnone d hd
  have hmem : typeName ∈ targetTypes f := by simp [htypes]
  have htarget : target? (records es) i f =
      (targetTypes f).findSome? fun typeName => record? (records es) typeName id := by
    rw [target?, hid]
    rfl
  rw [htarget, List.isSome_findSome?, List.any_eq_true]
  exact ⟨typeName, hmem, Option.isSome_iff_ne_none.2 hrecord⟩

end

/-! ### What linking writes -/

section
variable (rs : List (Instance Element)) {i : Instance Element}

theorem target?_congr {j : Instance Element} {f : Field Element}
    (h : j.get? f.name = i.get? f.name) : target? rs j f = target? rs i f := by
  simp only [target?, Instance.text?, h]

theorem target?_eq_none_of_text? {f : Field Element} (h : i.text? f.name = none) :
    target? rs i f = none := by
  simp only [target?, h]
  rfl

theorem linkField_of_target? {f : Field Element} {d : Instance Element}
    (h : target? rs i f = some d) :
    linkField rs i f = i.set f.name (.reference (.ofElement (.inst d))) := by
  rw [linkField, h]

theorem linkField_of_none {f : Field Element} (h : target? rs i f = none) :
    linkField rs i f = i := by
  rw [linkField, h]

theorem get?_linkField_of_ne {f : Field Element} {key : String} (h : key ≠ f.name) :
    (linkField rs i f).get? key = i.get? key := by
  rw [linkField]
  split
  · rw [Instance.get?_set, if_neg h]
  · rfl

/-- The record that the fields of a name lead to. The first that leads anywhere counts. -/
def linked? (fs : List (Field Element)) (i : Instance Element) (key : String) :
    Option (Instance Element) :=
  (fs.filter (·.name = key)).findSome? (target? rs i)

theorem linked?_congr {j : Instance Element} {fs : List (Field Element)} {key : String}
    (h : j.get? key = i.get? key) : linked? rs fs j key = linked? rs fs i key := by
  have hsame : ∀ f ∈ fs.filter (·.name = key), target? rs j f = target? rs i f := by
    intro f hf
    have hname : f.name = key := of_decide_eq_true (List.mem_filter.1 hf).2
    exact target?_congr rs (hname ▸ h)
  rw [linked?, linked?, ← List.head?_filterMap, ← List.head?_filterMap, List.filterMap_congr hsame]

theorem linked?_eq_none_of_text? {fs : List (Field Element)} {key : String}
    (h : i.text? key = none) : linked? rs fs i key = none := by
  rw [linked?, List.findSome?_eq_none_iff]
  intro f hf
  have hname : f.name = key := of_decide_eq_true (List.mem_filter.1 hf).2
  exact target?_eq_none_of_text? rs (hname ▸ h)

/-- Under a key that was linked there is no text any more, so it is not linked again. -/
theorem linked?_set_reference (fs : List (Field Element)) (i : Instance Element) (key : String)
    (r : Reference Element) : linked? rs fs (i.set key (.reference r)) key = none := by
  apply linked?_eq_none_of_text?
  rw [Instance.text?, Instance.get?_set_self]
  rfl

theorem get?_foldl_linkField (fs : List (Field Element)) (i : Instance Element) (key : String) :
    (fs.foldl (linkField rs) i).get? key = (linked? rs fs i key).elim (i.get? key) fun d =>
      some (.reference (.ofElement (.inst d))) := by
  induction fs generalizing i with
  | nil => rfl
  | cons f fs ih =>
    rw [List.foldl_cons, ih]
    by_cases hname : f.name = key
    · subst hname
      rw [linked?, linked?, List.filter_cons, if_pos (decide_eq_true rfl), List.findSome?_cons]
      cases htarget : target? rs i f with
      | none => rw [linkField_of_none rs htarget]
      | some d =>
        have hnone := linked?_set_reference rs fs i f.name (.ofElement (.inst d))
        rw [linkField_of_target? rs htarget, ← linked?, hnone, Option.elim_none,
          Instance.get?_set_self, Option.elim_some]
    · have hget : (linkField rs i f).get? key = i.get? key :=
        get?_linkField_of_ne rs (Ne.symm hname)
      have hfilter : linked? rs (f :: fs) i key = linked? rs fs i key := by
        rw [linked?, List.filter_cons, if_neg (by simpa using hname), linked?]
      rw [hfilter, hget, linked?_congr rs hget]

theorem exists_of_linked? {es : List Element} {fs : List (Field Element)} {key : String}
    {d : Instance Element} (h : linked? (records es) fs i key = some d) :
    ∃ f ∈ fs, f.name = key ∧ LeadsTo es i f d := by
  obtain ⟨f, hf, hd⟩ := List.exists_of_findSome?_eq_some h
  obtain ⟨hf, hname⟩ := List.mem_filter.1 hf
  exact ⟨f, hf, of_decide_eq_true hname, leadsTo_of_target? hd⟩

theorem isSome_linked? {es : List Element} {fs : List (Field Element)} {f : Field Element}
    (hf : f ∈ fs) {d : Instance Element} (hd : LeadsTo es i f d) :
    (linked? (records es) fs i f.name).isSome := by
  rw [linked?, List.isSome_findSome?, List.any_eq_true]
  exact ⟨f, List.mem_filter.2 ⟨hf, decide_eq_true rfl⟩, isSome_target? hd⟩

/-- References come in under keys of their own. -/
theorem mem_references_foldl_linkField {fs : List (Field Element)} {i : Instance Element}
    {l : Path × Reference Element} (h : l ∈ Values.references (fs.foldl (linkField rs) i).value) :
    l ∈ Values.references i.value ∨
      ∃ key, l.1 = [key] ∧ (fs.foldl (linkField rs) i).get? key = some (.reference l.2) := by
  induction fs generalizing i with
  | nil => exact .inl h
  | cons f fs ih =>
    rcases ih h with h | h
    case inr => exact .inr h
    cases htarget : target? rs i f with
    | none =>
      rw [linkField_of_none rs htarget] at h
      exact .inl h
    | some d =>
      rw [linkField_of_target? rs htarget] at h
      refine (Values.mem_references_put h).symm.imp_right ?_
      rintro rfl
      refine ⟨f.name, rfl, ?_⟩
      rw [List.foldl_cons, get?_foldl_linkField, linkField_of_target? rs htarget,
        linked?_set_reference, Option.elim_none, Instance.get?_set_self]

end

/-! ### What links resolve to -/

section
variable (policy : UnresolvedPolicy)

/-- A link resolves to the identifier of its record, on its own and whatever the policy is. -/
theorem resolveLeaf_link {d : Instance Element} {id : String} (h : d.text? idField = some id)
    (parentType : String) (path : Path) :
    Resolver.resolveLeaf { context := {}, policy } parentType path
      (.reference (.ofElement (.inst d))) = some (.text id) := by
  obtain ⟨v, hv, hid⟩ := Option.bind_eq_some_iff.1 h
  obtain rfl := Value.eq_text_of_text? hid
  have hserialize : Strategy.default.serialize (.inst d) = some (.text id) := by
    change (d.get? idField).bind (fun v => v.scalar?.bind fun s => some (Value.scalar s)) = _
    rw [hv]
    rfl
  have hvalue : (LookupContext.resolve {} none (.ofElement (.inst d))).value? =
      some (.text id) := by
    rw [LookupContext.resolve, LookupContext.value?_resolveWith (by decide) rfl]
    exact hserialize
  have hresolve : Resolver.resolve { context := {}, policy } path.fieldName parentType
      (.ofElement (.inst d)) = .resolved (.text id) := Resolution.eq_resolved_of_value? hvalue
  simp only [Resolver.resolveLeaf, hresolve]

theorem resolveInstance_linkField (es : List Element) (i : Instance Element) (f : Field Element) :
    Resolver.resolveInstance { context := {}, policy } (linkField (records es) i f) =
      Resolver.resolveInstance { context := {}, policy } i := by
  cases htarget : target? (records es) i f with
  | none => rw [linkField_of_none _ htarget]
  | some d =>
    obtain ⟨id, _, _, _, hid, -, hd, -⟩ := leadsTo_of_target? htarget
    obtain ⟨v, hv, htext⟩ := Option.bind_eq_some_iff.1 hid
    obtain rfl := Value.eq_text_of_text? htext
    have hsame : Values.mapLeaves (Resolver.resolveLeaf { context := {}, policy } i.typeName)
        (Assoc.put i.value f.name (.reference (.ofElement (.inst d)))) =
        Values.mapLeaves (Resolver.resolveLeaf { context := {}, policy } i.typeName) i.value := by
      apply Values.mapEntries_put hv
      rw [Value.mapLeavesM, resolveLeaf_link policy hd.text?_eq, Value.text, Value.mapLeavesM]
      rfl
    rw [linkField_of_target? _ htarget]
    exact congrArg (fun vs => { i with value := vs }) hsame

theorem resolveInstance_linkInstance (es : List Element) (i : Instance Element) :
    Resolver.resolveInstance { context := {}, policy } (linkInstance (records es) i) =
      Resolver.resolveInstance { context := {}, policy } i := by
  have hfold : ∀ (fs : List (Field Element)) (j : Instance Element),
      Resolver.resolveInstance { context := {}, policy } (fs.foldl (linkField (records es)) j) =
        Resolver.resolveInstance { context := {}, policy } j := by
    intro fs
    induction fs with
    | nil => exact fun j => rfl
    | cons f fs ih => exact fun j => (ih _).trans (resolveInstance_linkField policy es j f)
  rw [linkInstance]
  split
  · exact hfold i.type.fields i
  · rfl

end

/-- A reference in a linked record stands where a lookup led to its target. -/
theorem exists_lookup_of_mem_references {es : List Element} {i : Instance Element}
    (hi : Values.IsPlain i.value) {path : Path} {r : Reference Element}
    (h : (path, r) ∈ Values.references (linkInstance (records es) i).value) :
    ∃ f ∈ i.type.fields, ∃ d, path = [f.name] ∧ i.isRecord ∧ LeadsTo es i f d ∧
      r = .ofElement (.inst d) ∧
        (linkInstance (records es) i).get? f.name = some (.reference r) := by
  rw [linkInstance] at h ⊢
  split at h
  case isFalse =>
    rw [hi.references_eq_nil] at h
    cases h
  case isTrue hrecord =>
    rw [if_pos hrecord]
    rcases mem_references_foldl_linkField _ h with hold | ⟨key, rfl, hkey⟩
    · rw [hi.references_eq_nil] at hold
      cases hold
    · have hget := hkey
      rw [get?_foldl_linkField] at hget
      cases hlinked : linked? (records es) i.type.fields i key with
      | none =>
        rw [hlinked, Option.elim_none] at hget
        exact absurd (hi.reference?_eq_none hget) nofun
      | some d =>
        rw [hlinked, Option.elim_some] at hget
        obtain rfl : .ofElement (.inst d) = r := by simpa using hget
        obtain ⟨f, hf, rfl, hd⟩ := exists_of_linked? hlinked
        exact ⟨f, hf, d, rfl, hrecord, hd, rfl, hkey⟩

end RecordReferences

namespace Filter
variable {σ : Type}

open RecordReferences

/-- In plain records the filter replaces exactly the lookups that lead to a record, and resolving
brings every instance back as it was. -/
theorem onFetch_links_resolve_back (client : Client σ) (context : FilterContext) (s : Session σ)
    {es : List Element} (hplain : ∀ i, .inst i ∈ es → Values.IsPlain i.value)
    (policy : UnresolvedPolicy) :
    let linked := (onFetch client context es recordReferences s).1.left
    linked.length = es.length ∧
      (∀ (n : Nat) (e : Element), es[n]? = some e → e.isInst = false → linked[n]? = some e) ∧
      ∀ (n : Nat) (j : Instance Element), linked[n]? = some (.inst j) →
        ∃ i, es[n]? = some (.inst i) ∧
          Resolver.resolveInstance { context := {}, policy } j = i ∧
          (∀ path r, (path, r) ∈ Values.references j.value →
            ∃ f ∈ i.type.fields, ∃ d, path = [f.name] ∧ i.isRecord ∧ LeadsTo es i f d ∧
              r = .ofElement (.inst d) ∧ j.get? f.name = some (.reference r)) ∧
          ∀ f ∈ i.type.fields, i.isRecord → ∀ d, LeadsTo es i f d →
            ∃ r, j.get? f.name = some (.reference r) := by
  intro linked
  have hat : ∀ n, linked[n]? = es[n]?.map (linkElement (records es)) :=
    fun n => List.getElem?_map
  refine ⟨List.length_map _, ?_, ?_⟩
  · intro n e he hinst
    rw [hat, he]
    cases e with
    | inst i => cases hinst
    | _ => rfl
  · intro n j hj
    obtain ⟨i, hi, rfl⟩ : ∃ i, es[n]? = some (.inst i) ∧ linkInstance (records es) i = j := by
      obtain ⟨e, he, hej⟩ := Option.map_eq_some_iff.1 ((hat n).symm.trans hj)
      cases e with
      | inst i =>
        cases hej
        exact ⟨i, he, rfl⟩
      | _ => cases hej
    have hi' : Values.IsPlain i.value := hplain i (List.mem_of_getElem? hi)
    refine ⟨i, hi, ?_, ?_, ?_⟩
    · rw [resolveInstance_linkInstance, Resolver.resolveInstance_of_isPlain _ hi']
    · intro path r hr
      exact exists_lookup_of_mem_references hi' hr
    · intro f hf hrecord d hd
      obtain ⟨d', hd'⟩ := Option.isSome_iff_exists.1 (isSome_linked? hf hd)
      rw [linkInstance, if_pos hrecord, get?_foldl_linkField, hd', Option.elim_some]
      exact ⟨_, rfl⟩

def lookupType (typeName : String) (lookups : List (String × List String)) :
    ObjectType Element where
  id := .type "salesforce" typeName
  fields := lookups.map fun (name, targets) =>
    { parent := .type "salesforce" typeName, name, type := .string,
      annotations := [(AnnotationKey.referenceTo, .sequence (targets.map .text))] }
  annotations := [(AnnotationKey.metadataType, .text customObject)]

/-- The owner is a group or a user, and a group and a user share an identifier. -/
def contact : Instance Element where
  name := "Ann"
  type := lookupType "Contact" [("OwnerId", ["Queue", "Group", "User"]), ("ReportsToId", ["Contact"])]
  value := [(idField, .text "003a"), ("OwnerId", .text "005x"),
    ("Address", .mapping [("City", .text "Oslo"), ("Geo", .mapping [])]),
    ("ReportsToId", .text "003a")]

def owner (typeName : String) : Instance Element where
  name := "Sales"
  type := lookupType typeName []
  value := [(idField, .text "005x")]

def contactAndOwners : List Element := [.inst (owner "User"), .inst contact, .inst (owner "Group")]

theorem onFetch_links_resolve_back_contact :
    (∀ i, .inst i ∈ contactAndOwners → Values.IsPlain i.value) ∧
      ∃ j, (onFetch (InMemory.client {}) {} contactAndOwners recordReferences
          { state := 0 }).1.left[1]? = some (.inst j) ∧
        Resolver.resolveInstance { context := {}, policy := .drop } j = contact ∧
        j.get? "OwnerId" = some (.reference (.ofElement (.inst (owner "Group")))) ∧
        j.get? "ReportsToId" = some (.reference (.ofElement (.inst contact))) := by
  have hplain : ∀ i, .inst i ∈ contactAndOwners → Values.IsPlain i.value := by
    intro i hi
    simp only [contactAndOwners, List.mem_cons, Element.inst.injEq, List.not_mem_nil,
      or_false] at hi
    rcases hi with rfl | rfl | rfl
    all_goals exact (Values.exists_toRecord_iff _).1 ⟨_, rfl⟩
  obtain ⟨i, hi, hback, -⟩ := (onFetch_links_resolve_back (InMemory.client {}) {} { state := 0 }
    hplain .drop).2.2 1 (linkInstance (records contactAndOwners) contact) rfl
  cases hi
  exact ⟨hplain, _, rfl, hback, rfl, rfl⟩

end Filter

end ElementSync
