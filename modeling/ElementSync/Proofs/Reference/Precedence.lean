import ElementSync.Reference.Context
import Mathlib.Data.List.Nodup
import Mathlib.Data.List.Perm.Basic

/-!
# Where a reference finds its target

In the group of all metadata nothing resolves. Elsewhere the states that the group itself leads to
come first, of each element the last one. Only then the snapshot in the reference counts, and
without a snapshot what is known of the target.
-/

namespace ElementSync

namespace Change

/-- The last change of the list that leads to a state of this element leads to `e`. -/
def LastState (changes : List (Change Element)) (e : Element) : Prop :=
  ∃ before c after, changes = before ++ c :: after ∧ c.after? = some e ∧
    ∀ d ∈ after, ∀ x, d.after? = some x → x.id ≠ e.id

theorem id_eq_of_after? {c : Change Element} {e : Element} (h : c.after? = some e) :
    c.id = e.id := by
  cases c <;> cases h <;> rfl

theorem filterMap_after?_filter (changes : List (Change Element)) :
    (changes.filter (!·.isRemoval)).filterMap after? = changes.filterMap after? := by
  rw [List.filterMap_filter]
  refine List.filterMap_congr fun c _ => ?_
  cases c <;> rfl

theorem nodup_ids_filterMap_after? {changes : List (Change Element)}
    (h : (changes.map id).Nodup) : ((changes.filterMap after?).map Element.id).Nodup := by
  have hids : (changes.filterMap after?).map Element.id =
      (changes.filter (·.after?.isSome)).map id := by
    induction changes with
    | nil => rfl
    | cons c changes ih =>
      have hrest := ih (List.nodup_cons.1 h).2
      cases hafter : c.after? with
      | none =>
        rw [List.filterMap_cons_none hafter, hrest, List.filter_cons_of_neg (by simp [hafter])]
      | some e =>
        rw [List.filterMap_cons_some hafter, List.map_cons, hrest,
          List.filter_cons_of_pos (by simp [hafter]), List.map_cons, id_eq_of_after? hafter]
  rw [hids]
  exact h.sublist (List.filter_sublist.map id)

end Change

namespace LookupContext

section
variable {c : LookupContext} {s : Strategy} {r : Reference Element} {id : ElementId} {e : Element}

theorem resolveWith_of_metadata (h : c.group = c.metadataGroup) :
    c.resolveWith s r = .unresolved :=
  if_pos h

theorem resolveWith_of_member (hgroup : c.group ≠ c.metadataGroup)
    (h : c.member? r.target = some e) :
    c.resolveWith s r = if s.isIdentifier then .unresolved else .deferred e := by
  rw [resolveWith, if_neg hgroup, h]

theorem resolveWith_of_not_member (hgroup : c.group ≠ c.metadataGroup)
    (h : c.member? r.target = none) :
    c.resolveWith s r =
      ((r.handle.or (c.source r.target)).bind s.serialize).elim .unresolved .resolved := by
  rw [resolveWith, if_neg hgroup, h]
  cases (r.handle.or (c.source r.target)).bind s.serialize <;> rfl

theorem resolveWith_eq_deferred_iff :
    c.resolveWith s r = .deferred e ↔
      c.group ≠ c.metadataGroup ∧ c.member? r.target = some e ∧ ¬ s.isIdentifier := by
  by_cases hgroup : c.group = c.metadataGroup
  · simp [resolveWith_of_metadata hgroup, hgroup]
  · cases hmember : c.member? r.target with
    | some live =>
      rw [resolveWith_of_member hgroup hmember]
      cases s.isIdentifier <;> simp [hgroup]
    | none =>
      rw [resolveWith_of_not_member hgroup hmember]
      cases (r.handle.or (c.source r.target)).bind s.serialize <;> simp

theorem resolveWith_eq_resolved_iff {v : Value Element} :
    c.resolveWith s r = .resolved v ↔
      c.group ≠ c.metadataGroup ∧ c.member? r.target = none ∧
        (r.handle.or (c.source r.target)).bind s.serialize = some v := by
  by_cases hgroup : c.group = c.metadataGroup
  · simp [resolveWith_of_metadata hgroup, hgroup]
  · cases hmember : c.member? r.target with
    | some live =>
      rw [resolveWith_of_member hgroup hmember]
      cases s.isIdentifier <;> simp
    | none =>
      rw [resolveWith_of_not_member hgroup hmember]
      cases (r.handle.or (c.source r.target)).bind s.serialize <;> simp [hgroup]

theorem exists_serialize_of_resolved {v : Value Element} (h : c.resolveWith s r = .resolved v) :
    ∃ e, s.serialize e = some v := by
  obtain ⟨-, -, hread⟩ := resolveWith_eq_resolved_iff.1 h
  obtain ⟨e, -, hserialize⟩ := Option.bind_eq_some_iff.1 hread
  exact ⟨e, hserialize⟩

theorem mem_of_member? (h : c.member? id = some e) : e ∈ c.members ∧ e.id = id :=
  ⟨List.mem_reverse.1 (List.mem_of_find?_eq_some h),
    of_decide_eq_true (List.find?_some (p := fun x : Element => x.id = id) h)⟩

theorem member?_eq_none_iff : c.member? id = none ↔ ∀ e ∈ c.members, e.id ≠ id := by
  simp [member?]

/-- Among distinct elements the order plays no part. -/
theorem member?_eq_some_iff_of_nodup (h : (c.members.map Element.id).Nodup) :
    c.member? id = some e ↔ e ∈ c.members ∧ e.id = id := by
  refine ⟨mem_of_member?, ?_⟩
  rintro ⟨he, rfl⟩
  cases hmember : c.member? e.id with
  | none => exact absurd rfl (member?_eq_none_iff.1 hmember e he)
  | some d =>
    obtain ⟨hd, hid⟩ := mem_of_member? hmember
    rw [List.inj_on_of_nodup_map h hd he hid]

end

section
variable (group : String) {changes : List (Change Element)}

theorem mem_members_forGroup {e : Element} :
    e ∈ (forGroup group changes).members ↔ ∃ c ∈ changes, c.after? = some e :=
  List.mem_filterMap

theorem lastState_of_member? {id : ElementId} {e : Element}
    (h : (forGroup group changes).member? id = some e) : Change.LastState changes e := by
  have hid := (mem_of_member? h).2
  -- The search begins at the end, so what it has passed comes later in the list.
  obtain ⟨-, later, earlier, hreverse, hlater⟩ := List.find?_eq_some_iff_append.1 h
  have hmembers : changes.filterMap Change.after? = earlier.reverse ++ e :: later.reverse := by
    rw [← List.reverse_reverse (changes.filterMap Change.after?)]
    exact (congrArg List.reverse hreverse).trans (by simp)
  obtain ⟨before, rest, rfl, -, hrest⟩ := List.filterMap_eq_append_iff.1 hmembers
  obtain ⟨removals, c, after, rfl, -, hc, hafter⟩ := List.filterMap_eq_cons_iff.1 hrest
  refine ⟨before ++ removals, c, after, (List.append_assoc ..).symm, hc, fun d hd x hx => ?_⟩
  have hx : x ∈ later.reverse := hafter ▸ List.mem_filterMap.2 ⟨d, hd, hx⟩
  rw [hid]
  simpa using hlater x (List.mem_reverse.1 hx)

/-- Changes of distinct elements may be reordered, and removals may come and go. -/
theorem member?_forGroup_perm {changes' : List (Change Element)}
    (hids : (changes.map Change.id).Nodup)
    (h : (changes.filter (!·.isRemoval)).Perm (changes'.filter (!·.isRemoval))) (id : ElementId) :
    (forGroup group changes').member? id = (forGroup group changes).member? id := by
  have hmembers : (forGroup group changes).members.Perm (forGroup group changes').members := by
    have hstates := h.filterMap Change.after?
    rwa [Change.filterMap_after?_filter, Change.filterMap_after?_filter] at hstates
  have hnodup : ((forGroup group changes).members.map Element.id).Nodup :=
    Change.nodup_ids_filterMap_after? hids
  have hnodup' := (hmembers.map Element.id).nodup_iff.1 hnodup
  ext e
  rw [member?_eq_some_iff_of_nodup hnodup', member?_eq_some_iff_of_nodup hnodup, hmembers.mem_iff]

theorem member?_forGroup_eq_none_iff {id : ElementId} :
    (forGroup group changes).member? id = none ↔
      ¬ ∃ c ∈ changes, ∃ e, c.after? = some e ∧ e.id = id := by
  rw [member?_eq_none_iff]
  constructor
  · rintro hnone ⟨c, hc, e, he, hid⟩
    exact hnone e ((mem_members_forGroup group).2 ⟨c, hc, he⟩) hid
  · intro hnone e he hid
    obtain ⟨c, hc, he⟩ := (mem_members_forGroup group).1 he
    exact hnone ⟨c, hc, e, he, hid⟩

end

/-- In the group of all metadata a reference is unresolved. In any other group a target that the
group adds or modifies is deferred to the state after the last such change, or is unresolved if it
is asked for its identifier. Any other target is read from the snapshot, or without one from what
is known. When the changes are of distinct elements, it does not matter in which order they come
and which removals are among them. -/
theorem resolve_forGroup (group metadata : String) (changes : List (Change Element))
    (fallback : Strategy) (source : ElementSource) (chosen : Option Strategy)
    (r : Reference Element) :
    let resolution (cs : List (Change Element)) : Resolution :=
      { forGroup group cs with metadataGroup := metadata, strategy := fallback, source }.resolve
        chosen r
    let s := chosen.getD fallback
    let written := ∃ c ∈ changes, ∃ e, c.after? = some e ∧ e.id = r.target
    let known (e : Element) := r.handle = some e ∨ r.handle = none ∧ source r.target = some e
    (group = metadata → resolution changes = .unresolved) ∧
      (group ≠ metadata → written → ∃ e, Change.LastState changes e ∧ e.id = r.target ∧
        resolution changes = if s.isIdentifier then .unresolved else .deferred e) ∧
      (group ≠ metadata → ¬ written →
        (∀ v, resolution changes = .resolved v ↔ ∃ e, known e ∧ s.serialize e = some v) ∧
        (resolution changes = .unresolved ↔ ∀ e, known e → s.serialize e = none)) ∧
      ∀ changes', (changes.map Change.id).Nodup →
        (changes.filter (!·.isRemoval)).Perm (changes'.filter (!·.isRemoval)) →
          resolution changes' = resolution changes := by
  intro resolution s written known
  let context (cs : List (Change Element)) : LookupContext :=
    { forGroup group cs with metadataGroup := metadata, strategy := fallback, source }
  have hknown : ∀ e, r.handle.or (source r.target) = some e ↔ known e := fun _ =>
    Option.or_eq_some_iff
  refine ⟨fun hgroup => ?_, fun hgroup hwritten => ?_, fun hgroup hwritten => ?_,
    fun changes' hids hperm => ?_⟩
  · exact resolveWith_of_metadata (c := context changes) hgroup
  · cases hmember : (forGroup group changes).member? r.target with
    | none => exact absurd hwritten ((member?_forGroup_eq_none_iff group).1 hmember)
    | some e =>
      exact ⟨e, lastState_of_member? group hmember, (mem_of_member? hmember).2,
        resolveWith_of_member (c := context changes) hgroup hmember⟩
  · have hmember : (context changes).member? r.target = none :=
      (member?_forGroup_eq_none_iff group).2 hwritten
    have hserialize : ∀ v, (r.handle.or (source r.target)).bind s.serialize = some v ↔
        ∃ e, known e ∧ s.serialize e = some v := by
      intro v
      simp only [Option.bind_eq_some_iff, hknown]
    have hread : resolution changes =
        ((r.handle.or (source r.target)).bind s.serialize).elim .unresolved .resolved :=
      resolveWith_of_not_member (c := context changes) hgroup hmember
    constructor
    · intro v
      rw [hread, ← hserialize]
      cases (r.handle.or (source r.target)).bind s.serialize <;> simp
    · have hnone : (r.handle.or (source r.target)).bind s.serialize = none ↔
          ∀ e, known e → s.serialize e = none := by
        simp only [Option.bind_eq_none_iff, hknown]
      rw [hread, ← hnone]
      cases (r.handle.or (source r.target)).bind s.serialize <;> simp
  · have hmember : (context changes').member? r.target = (context changes).member? r.target :=
      member?_forGroup_perm group hids hperm r.target
    change (context changes').resolveWith s r = (context changes).resolveWith s r
    rw [resolveWith, resolveWith, hmember]
    rfl

end LookupContext

def product (name : String) (values : Values Element) : Instance Element where
  name := name
  type := { id := .type "salesforce" "Product2" }
  value := values

namespace LookupContext

/-- A screw is added and renamed and a gasket removed. The screw is deferred, the gasket still has
its identifier, and an addition alone is the same as with the removal before it. -/
theorem resolve_forGroup_screw :
    let screw (name : String) : Element := .inst (product "Screw" [(fullNameField, .text name)])
    let gasket : Element := .inst (product "Gasket" [(idField, .text "01tGasket")])
    let changes : List (Change Element) :=
      [.addition (screw "S-1"), .removal gasket, .modification (screw "S-1") (screw "S-2")]
    let reordered : List (Change Element) := [.removal gasket, .addition (screw "S-1")]
    let context := forGroup "additions"
    "additions" ≠ ElementSync.metadataGroup ∧
      (∃ e, Change.LastState changes e ∧ e.id = (Reference.ofElement (screw "S-0")).target ∧
        (context changes).resolve (some .apiName) (.ofElement (screw "S-0")) = .deferred e) ∧
      (context changes).resolve none (.ofElement gasket) = .resolved (.text "01tGasket") ∧
      (reordered.map Change.id).Nodup ∧
      (context [.addition (screw "S-1")]).resolve none (.ofElement (screw "S-0")) =
        (context reordered).resolve none (.ofElement (screw "S-0")) := by
  intro screw gasket changes reordered context
  have law := fun cs chosen r => resolve_forGroup "additions" ElementSync.metadataGroup cs .default
    (fun _ => none) chosen r
  have hgroup : "additions" ≠ ElementSync.metadataGroup := by decide
  have hids : (reordered.map Change.id).Nodup := by decide
  have hlast := (law changes (some .apiName) (.ofElement (screw "S-0"))).2.1 hgroup
  have hread := (law changes none (.ofElement gasket)).2.2.1 hgroup
    ((member?_forGroup_eq_none_iff "additions").1 rfl)
  have hsame := (law reordered none (.ofElement (screw "S-0"))).2.2.2 [.addition (screw "S-1")] hids
  refine ⟨hgroup, hlast ⟨_, List.mem_cons_self, screw "S-1", rfl, rfl⟩, ?_, hids, hsame (.refl _)⟩
  exact (hread.1 _).2 ⟨gasket, .inl rfl, rfl⟩

end LookupContext

end ElementSync
