import ElementSync.Proofs.Fetch.Records
import ElementSync.Proofs.Graph

/-!
# What a graph remembers of the calls to it

A ledger keeps, for each id, the step at which the id came in and the element that was put there
last. A graph holds just what the ledger of its calls says: the elements put last, in the order in
which their ids came in.
-/

namespace ElementSync

/-- Under each id that is there, the step at which it came in and its element. -/
abbrev Ledger := ElementId → Option (Nat × Element)

namespace Ledger

def since? (l : Ledger) (id : ElementId) : Option Nat := (l id).map Prod.fst

def latest? (l : Ledger) (id : ElementId) : Option Element := (l id).map Prod.snd

/-- An insertion counts under a new id only; replacing an element keeps the step of its id. -/
def enter (l : Ledger) (step : Nat) : ElementGraph.Edit → Ledger
  | .insert e => fun id => if id = e.id then (l id).or (some (step, e)) else l id
  | .upsert e => fun id => if id = e.id then some ((l.since? id).getD step, e) else l id
  | .remove removed => fun id => if id = removed then none else l id

/-- Under a new id inserting and replacing are the same. -/
theorem enter_of_none {l : Ledger} {e : Element} (hnone : l e.id = none) {step : Nat}
    {x : ElementGraph.Edit} (hx : x = .insert e ∨ x = .upsert e) :
    l.enter step x = fun id => if id = e.id then some (step, e) else l id := by
  funext id
  rcases hx with rfl | rfl <;> by_cases hid : id = e.id <;> simp [enter, since?, hid, hnone]

def enterAll (l : Ledger) (step : Nat) : List ElementGraph.Edit → Ledger
  | [] => l
  | x :: xs => enterAll (l.enter step x) (step + 1) xs

def ofEdits (xs : List ElementGraph.Edit) : Ledger := enterAll (fun _ => none) 0 xs

end Ledger

namespace ElementGraph

def editAll (g : ElementGraph) (xs : List Edit) : ElementGraph :=
  xs.foldl (fun g x => (g.edit x).2) g

variable {g : ElementGraph} {id : ElementId} {e : Element}

/-! ### One call -/

theorem stored?_of_mem (hids : g.ids.Nodup) (h : e ∈ g.elements) : g.stored? e.id = some e := by
  cases hstored : g.stored? e.id with
  | none => exact absurd (List.mem_map_of_mem h) (stored?_eq_none_iff.1 hstored)
  | some d =>
    obtain ⟨hd, hid⟩ := mem_elements_of_stored? hstored
    rw [List.inj_on_of_nodup_map hids hd h hid]

theorem edit_insert (g : ElementGraph) (e : Element) :
    g.edit (.insert e) =
      if e.id ∈ g.ids then (.refused (.duplicate e.id), g) else (.done, ⟨g.elements ++ [e]⟩) := by
  rw [edit, insert]
  by_cases h : e.id ∈ g.ids
  · rw [if_pos h, if_pos h]
  · rw [if_neg h, if_neg h]

theorem stored?_append (g : ElementGraph) (hnew : e.id ∉ g.ids) (id : ElementId) :
    stored? ⟨g.elements ++ [e]⟩ id = if id = e.id then some e else g.stored? id := by
  rw [stored?, List.find?_append]
  change (g.stored? id).or _ = _
  by_cases hid : id = e.id
  · subst hid
    rw [stored?_eq_none_iff.2 hnew, if_pos rfl]
    simp
  · rw [if_neg hid]
    simp [Ne.symm hid]

theorem upsert_of_notMem (hnew : e.id ∉ g.ids) : g.upsert e = ⟨g.elements ++ [e]⟩ := by
  have hgo : ∀ ds : List Element, e.id ∉ ds.map Element.id → upsert.go e ds = ds ++ [e] := by
    intro ds hds
    induction ds with
    | nil => rfl
    | cons d ds ih =>
      rw [List.map_cons, List.mem_cons, not_or] at hds
      rw [upsert.go, if_neg (Ne.symm hds.1), ih hds.2, List.cons_append]
  rw [upsert, hgo _ hnew]

theorem ids_upsert_of_mem (hold : e.id ∈ g.ids) : (g.upsert e).ids = g.ids := by
  have hgo : ∀ ds : List Element, e.id ∈ ds.map Element.id →
      (upsert.go e ds).map Element.id = ds.map Element.id := by
    intro ds hds
    induction ds with
    | nil => cases hds
    | cons d ds ih =>
      rw [upsert.go]
      by_cases hd : d.id = e.id
      · rw [if_pos hd, List.map_cons, List.map_cons, hd]
      · rw [if_neg hd, List.map_cons, List.map_cons,
          ih ((List.mem_cons.1 hds).resolve_left (Ne.symm hd))]
  exact hgo _ hold

theorem stored?_upsert (g : ElementGraph) (e : Element) (id : ElementId) :
    (g.upsert e).stored? id = if id = e.id then some e else g.stored? id := by
  have hgo : ∀ ds : List Element, (upsert.go e ds).find? (·.id = id) =
      if id = e.id then some e else ds.find? (·.id = id) := by
    intro ds
    induction ds with
    | nil => by_cases hid : id = e.id <;> simp [upsert.go, hid, eq_comm]
    | cons d ds ih =>
      rw [upsert.go]
      by_cases hd : d.id = e.id
      · by_cases hid : id = e.id <;> simp [hd, hid, eq_comm]
      · rw [if_neg hd, List.find?_cons, ih, List.find?_cons]
        by_cases hid : id = e.id
        · simp [hid, hd]
        · simp [hid]
  exact hgo g.elements

theorem remove_eq_filter (hids : g.ids.Nodup) (id : ElementId) :
    g.remove id = ⟨g.elements.filter (·.id ≠ id)⟩ := by
  have herase : ∀ ds : List Element, (ds.map Element.id).Nodup →
      ds.eraseP (·.id = id) = ds.filter (·.id ≠ id) := by
    intro ds hds
    induction ds with
    | nil => rfl
    | cons d ds ih =>
      obtain ⟨hd, hds⟩ := List.nodup_cons.1 hds
      by_cases hid : d.id = id
      · subst hid
        rw [List.eraseP_cons_of_pos (by simp), List.filter_cons_of_neg (by simp),
          List.filter_eq_self.2]
        intro e he
        simpa using fun heq : e.id = d.id => hd (heq ▸ List.mem_map_of_mem he)
      · rw [List.eraseP_cons_of_neg (by simpa using hid),
          List.filter_cons_of_pos (by simpa using hid), ih hds]
  rw [remove, herase _ hids]

theorem stored?_remove (hids : g.ids.Nodup) (removed id : ElementId) :
    (g.remove removed).stored? id = if id = removed then none else g.stored? id := by
  rw [remove_eq_filter hids, stored?, List.find?_filter]
  by_cases hid : id = removed
  · subst hid
    rw [if_pos rfl]
    simp
  · rw [if_neg hid, stored?]
    congr 1
    funext e
    by_cases he : e.id = id
    · simp [he, hid]
    · simp [he]

theorem mem_elements_edit {x : Edit} (h : e ∈ (g.edit x).2.elements) :
    e ∈ g.elements ∨ x = .insert e ∨ x = .upsert e := by
  have hgo : ∀ (d : Element) (ds : List Element), e ∈ upsert.go d ds → e ∈ ds ∨ e = d := by
    intro d ds he
    induction ds with
    | nil => exact Or.inr (List.mem_singleton.1 he)
    | cons c ds ih =>
      rw [upsert.go] at he
      by_cases hc : c.id = d.id
      · rw [if_pos hc] at he
        exact (List.mem_cons.1 he).symm.imp_left (List.mem_cons_of_mem c)
      · rw [if_neg hc] at he
        rcases List.mem_cons.1 he with rfl | he
        · exact Or.inl List.mem_cons_self
        · exact (ih he).imp_left (List.mem_cons_of_mem c)
  cases x with
  | insert d =>
    rw [edit_insert] at h
    by_cases hd : d.id ∈ g.ids
    · rw [if_pos hd] at h
      exact Or.inl h
    · rw [if_neg hd] at h
      rcases List.mem_append.1 h with h | h
      · exact Or.inl h
      · exact Or.inr (Or.inl (by rw [List.mem_singleton.1 h]))
  | upsert d =>
    rcases hgo d _ h with h | rfl
    · exact Or.inl h
    · exact Or.inr (Or.inr rfl)
  | remove removed => exact Or.inl (List.mem_of_mem_eraseP h)

/-! ### All calls -/

structure Follows (g : ElementGraph) (l : Ledger) (step : Nat) : Prop where
  stored : ∀ id, g.stored? id = l.latest? id
  ordered : g.ids.Pairwise fun a b => l.since? a < l.since? b
  past : ∀ id, ∀ n ∈ l.since? id, n < step

variable {l : Ledger} {step : Nat}

theorem Follows.nodup (h : g.Follows l step) : g.ids.Nodup := by
  apply h.ordered.imp
  rintro a b hab rfl
  cases hsince : l.since? a with
  | none => simp [hsince] at hab
  | some n => simp [hsince] at hab

theorem Follows.mem_ids_iff (h : g.Follows l step) : id ∈ g.ids ↔ (l id).isSome := by
  rw [← not_iff_not, ← stored?_eq_none_iff, h.stored, Ledger.latest?, Option.map_eq_none_iff]
  simp

theorem Follows.eq_none (h : g.Follows l step) (hnew : id ∉ g.ids) : l id = none := by
  simpa using mt h.mem_ids_iff.2 hnew

/-- A new id goes last. -/
theorem Follows.append (h : g.Follows l step) (hnew : e.id ∉ g.ids) :
    Follows ⟨g.elements ++ [e]⟩ (fun id => if id = e.id then some (step, e) else l id)
      (step + 1) := by
  refine ⟨fun id => ?_, ?_, fun id n hn => ?_⟩
  · rw [stored?_append g hnew, h.stored, Ledger.latest?, Ledger.latest?]
    by_cases hid : id = e.id
    · rw [if_pos hid, if_pos hid, Option.map_some]
    · rw [if_neg hid, if_neg hid]
  · have hids : ids ⟨g.elements ++ [e]⟩ = g.ids ++ [e.id] := List.map_append
    rw [hids, List.pairwise_append]
    refine ⟨h.ordered.imp_of_mem ?_, List.pairwise_singleton _ _, ?_⟩
    · intro a b ha hb hab
      have hae : a ≠ e.id := fun heq => hnew (heq ▸ ha)
      have hbe : b ≠ e.id := fun heq => hnew (heq ▸ hb)
      simpa only [Ledger.since?, if_neg hae, if_neg hbe] using hab
    · intro a ha b hb
      rw [List.mem_singleton.1 hb]
      have hae : a ≠ e.id := fun heq => hnew (heq ▸ ha)
      obtain ⟨entry, hentry⟩ := Option.isSome_iff_exists.1 (h.mem_ids_iff.1 ha)
      have hpast := h.past a entry.1 (by rw [Ledger.since?, hentry]; rfl)
      simpa [Ledger.since?, hae, hentry] using hpast
  · by_cases hid : id = e.id
    · have heq : n = step := by simpa [Ledger.since?, hid, eq_comm] using hn
      omega
    · have hold : n ∈ l.since? id := by simpa only [Ledger.since?, if_neg hid] using hn
      have hpast := h.past id n hold
      omega

theorem Follows.later (h : g.Follows l step) : g.Follows l (step + 1) :=
  ⟨h.stored, h.ordered, fun id n hn => Nat.lt_succ_of_lt (h.past id n hn)⟩

/-- A call writes to the ledger what it does to the graph. -/
theorem Follows.edit (h : g.Follows l step) (x : Edit) :
    (g.edit x).2.Follows (l.enter step x) (step + 1) := by
  cases x with
  | insert e =>
    rw [edit_insert]
    by_cases hold : e.id ∈ g.ids
    case pos =>
      have hsame : l.enter step (.insert e) = l := by
        obtain ⟨entry, hentry⟩ := Option.isSome_iff_exists.1 (h.mem_ids_iff.1 hold)
        funext id
        by_cases hid : id = e.id <;> simp [Ledger.enter, hid, hentry]
      rw [if_pos hold, hsame]
      exact h.later
    case neg =>
      rw [if_neg hold, Ledger.enter_of_none (h.eq_none hold) (Or.inl rfl)]
      exact h.append hold
  | upsert e =>
    by_cases hold : e.id ∈ g.ids
    case pos =>
      have hsince : ∀ id, (l.enter step (.upsert e)).since? id = l.since? id := by
        intro id
        by_cases hid : id = e.id
        · obtain ⟨entry, hentry⟩ := Option.isSome_iff_exists.1 (h.mem_ids_iff.1 hold)
          simp [Ledger.enter, Ledger.since?, hid, hentry]
        · simp [Ledger.enter, Ledger.since?, hid]
      refine ⟨fun id => ?_, ?_, fun id n hn => ?_⟩
      · rw [ElementGraph.edit, stored?_upsert, h.stored]
        by_cases hid : id = e.id <;> simp [Ledger.enter, Ledger.latest?, hid]
      · change (g.upsert e).ids.Pairwise _
        rw [ids_upsert_of_mem hold]
        simpa only [hsince] using h.ordered
      · rw [hsince] at hn
        exact h.later.past id n hn
    case neg =>
      rw [ElementGraph.edit, upsert_of_notMem hold,
        Ledger.enter_of_none (h.eq_none hold) (Or.inr rfl)]
      exact h.append hold
  | remove removed =>
    have hids : (g.remove removed).ids.Sublist g.ids := (List.eraseP_sublist).map Element.id
    have hsince : ∀ id ∈ (g.remove removed).ids,
        (l.enter step (.remove removed)).since? id = l.since? id := by
      intro id hid
      have hne : id ≠ removed := by
        rintro rfl
        rw [remove_eq_filter h.nodup] at hid
        obtain ⟨e, he, heq⟩ := List.mem_map.1 hid
        simp [heq] at he
      simp only [Ledger.since?, Ledger.enter, if_neg hne]
    refine ⟨fun id => ?_, ?_, fun id n hn => ?_⟩
    · rw [ElementGraph.edit, stored?_remove h.nodup, h.stored]
      by_cases hid : id = removed <;> simp [Ledger.enter, Ledger.latest?, hid]
    · change (g.remove removed).ids.Pairwise _
      apply (h.ordered.sublist hids).imp_of_mem
      intro a b ha hb hab
      rw [hsince a ha, hsince b hb]
      exact hab
    · by_cases hid : id = removed
      · simp [Ledger.since?, Ledger.enter, hid] at hn
      · have hold : n ∈ l.since? id := by simpa [Ledger.since?, Ledger.enter, hid] using hn
        exact h.later.past id n hold

theorem Follows.editAll (h : g.Follows l step) (xs : List Edit) :
    ∃ n, (g.editAll xs).Follows (l.enterAll step xs) n := by
  induction xs generalizing g l step with
  | nil => exact ⟨step, h⟩
  | cons x xs ih => exact ih (h.edit x)

theorem exists_follows_ofEdits (xs : List Edit) :
    ∃ n, (editAll {} xs).Follows (Ledger.ofEdits xs) n := by
  have hempty : Follows {} (fun _ => none) 0 := ⟨fun _ => rfl, List.Pairwise.nil, nofun⟩
  exact hempty.editAll xs

/-- What is stored was put there by a call. -/
theorem mem_elements_editAll {xs : List Edit} (h : e ∈ (g.editAll xs).elements) :
    e ∈ g.elements ∨ ∃ x ∈ xs, x = .insert e ∨ x = .upsert e := by
  induction xs generalizing g with
  | nil => exact Or.inl h
  | cons x xs ih =>
    rcases ih h with hmem | ⟨y, hy, hput⟩
    · rcases mem_elements_edit hmem with hmem | hput
      · exact Or.inl hmem
      · exact Or.inr ⟨x, List.mem_cons_self, hput⟩
    · exact Or.inr ⟨y, List.mem_cons_of_mem x hy, hput⟩

end ElementGraph

/-! ### Fields through their types -/

namespace ObjectType

def HasOwnFields (t : ObjectType Element) : Prop :=
  ∃ fs : List (Field Element), (∀ f ∈ fs, f.parent = t.id) ∧
    t.fields = (fs.foldl addField { id := t.id }).fields

theorem nodup_names_addField {t : ObjectType Element} (h : (t.fields.map (·.name)).Nodup)
    (f : Field Element) : ((t.addField f).fields.map (·.name)).Nodup := by
  have hgo : ∀ gs : List (Field Element), (addField.go f gs).map (·.name) =
      if f.name ∈ gs.map (·.name) then gs.map (·.name) else gs.map (·.name) ++ [f.name] := by
    intro gs
    induction gs with
    | nil => rfl
    | cons g gs ih =>
      rw [addField.go]
      by_cases hg : g.name = f.name
      · simp [hg]
      · rw [if_neg hg, List.map_cons, ih]
        by_cases hf : f.name ∈ gs.map (·.name)
        · simp [hf]
        · simp [hf, Ne.symm hg]
  change ((addField.go f t.fields).map (·.name)).Nodup
  rw [hgo]
  by_cases hf : f.name ∈ t.fields.map (·.name)
  · rw [if_pos hf]
    exact h
  · rw [if_neg hf, ← List.concat_eq_append]
    exact h.concat hf

theorem nodup_names_foldl_addField (fs : List (Field Element)) {t : ObjectType Element}
    (h : (t.fields.map (·.name)).Nodup) :
    ((fs.foldl addField t).fields.map (·.name)).Nodup := by
  induction fs generalizing t with
  | nil => exact h
  | cons f fs ih => exact ih (nodup_names_addField h f)

namespace HasOwnFields
variable {t : ObjectType Element} {f : Field Element}

theorem parent_eq (h : t.HasOwnFields) (hf : f ∈ t.fields) : f.parent = t.id := by
  obtain ⟨fs, hparents, heq⟩ := h
  rw [heq] at hf
  rcases mem_foldl_addField hf with hf | hf
  · exact hparents f hf
  · cases hf

theorem field?_eq_some_iff (h : t.HasOwnFields) {name : String} :
    t.field? name = some f ↔ f ∈ t.fields ∧ f.name = name := by
  have hnames : (t.fields.map (·.name)).Nodup := by
    obtain ⟨fs, -, heq⟩ := h
    rw [heq]
    exact nodup_names_foldl_addField fs List.nodup_nil
  constructor
  · intro hfound
    exact ⟨List.mem_of_find?_eq_some hfound, by simpa using List.find?_some hfound⟩
  · rintro ⟨hf, rfl⟩
    cases hfound : t.field? f.name with
    | none => exact absurd (List.find?_eq_none.1 hfound f hf) (by simp)
    | some g =>
      have hname : g.name = f.name := by simpa using List.find?_some hfound
      rw [List.inj_on_of_nodup_map hnames (List.mem_of_find?_eq_some hfound) hf hname]

end HasOwnFields

end ObjectType

namespace ElementGraph
variable {g : ElementGraph} {id : ElementId} {e : Element}

theorem stored?_eq_some_iff (hids : g.ids.Nodup) :
    g.stored? id = some e ↔ e ∈ g.elements ∧ e.id = id := by
  constructor
  · exact mem_elements_of_stored?
  · rintro ⟨he, rfl⟩
    exact stored?_of_mem hids he

theorem fieldId_eq_iff {f : Field Element} (hfield : id.kind = .field ∧ id.isTopLevel)
    (hparent : f.parent = id.typeId) : f.id = id ↔ f.name = id.name := by
  obtain ⟨adapter, typeName, kind, parts⟩ := id
  obtain ⟨rfl, htop⟩ := hfield
  have hparts : parts.length = 1 := of_decide_eq_true htop
  obtain ⟨part, rfl⟩ := List.length_eq_one_iff.1 hparts
  simp [Field.id, hparent, ElementId.field, ElementId.typeId, ElementId.type, ElementId.name]

theorem objectType?_eq_some_iff {t : ObjectType Element} :
    e.objectType? = some t ↔ e = .objectType t := by
  cases e <;> simp [Element.objectType?]

/-- An id resolves to the element stored under it, or to the field with this id of the type that it
names. -/
theorem resolve_eq_some_iff (hids : g.ids.Nodup)
    (hown : ∀ t, .objectType t ∈ g.elements → t.HasOwnFields) :
    g.resolve id = some e ↔ e.id = id ∧ (e ∈ g.elements ∨ id ∉ g.ids ∧
      ∃ t f, .objectType t ∈ g.elements ∧ t.id = id.typeId ∧ f ∈ t.fields ∧ e = .field f) := by
  rw [resolve]
  cases hstored : g.stored? id with
  | some d =>
    obtain ⟨hd, hid⟩ := mem_elements_of_stored? hstored
    have hmem : id ∈ g.ids := hid ▸ List.mem_map_of_mem hd
    have hsame : g.stored? id = some e ↔ e ∈ g.elements ∧ e.id = id := stored?_eq_some_iff hids
    rw [hstored] at hsame
    simp only [hsame, hmem, not_true_eq_false, false_and, or_false, and_comm]
  | none =>
    have hnew := stored?_eq_none_iff.1 hstored
    have hnot : e.id = id → e ∉ g.elements := fun hid he => hnew (hid ▸ List.mem_map_of_mem he)
    by_cases hfield : id.kind = .field ∧ id.isTopLevel
    case pos =>
      simp only [hfield, Bool.and_self, decide_true, if_true]
      constructor
      · intro h
        obtain ⟨owner, howner, h⟩ := Option.bind_eq_some_iff.1 h
        obtain ⟨t, ht, h⟩ := Option.bind_eq_some_iff.1 h
        obtain ⟨f, hf, h⟩ := Option.bind_eq_some_iff.1 h
        cases h
        rw [objectType?_eq_some_iff.1 ht] at howner
        obtain ⟨hstored, hid⟩ := mem_elements_of_stored? howner
        obtain ⟨hmem, hname⟩ := (hown t hstored).field?_eq_some_iff.1 hf
        have hparent : f.parent = id.typeId := ((hown t hstored).parent_eq hmem).trans hid
        exact ⟨(fieldId_eq_iff hfield hparent).2 hname,
          Or.inr ⟨hnew, t, f, hstored, hid, hmem, rfl⟩⟩
      · rintro ⟨hid, he | ⟨-, t, f, ht, htype, hf, rfl⟩⟩
        · exact absurd he (hnot hid)
        · have hparent : f.parent = id.typeId := ((hown t ht).parent_eq hf).trans htype
          have hname := (fieldId_eq_iff hfield hparent).1 hid
          rw [(stored?_eq_some_iff hids).2 ⟨ht, htype⟩]
          change (t.field? id.name).bind (fun f => some (Element.field f)) = _
          rw [(hown t ht).field?_eq_some_iff.2 ⟨hf, hname⟩]
          rfl
    case neg =>
      have hcondition : ¬ (decide (id.kind = .field) && id.isTopLevel) := by simpa using hfield
      rw [if_neg hcondition]
      constructor
      · intro h
        cases h
      · rintro ⟨hid, he | ⟨-, t, f, -, -, -, rfl⟩⟩
        · exact absurd he (hnot hid)
        · exact absurd (hid ▸ ⟨rfl, rfl⟩) hfield

/-- A sequence of calls leaves what was put last under each id that is still there, in the order in
which the ids came in. An insertion is refused exactly when its id is there, a removal gives the
element back, and whatever an id resolves to has this id. -/
theorem edits_follow_ledger (xs : List Edit)
    (hown : ∀ t, .insert (.objectType t) ∈ xs ∨ .upsert (.objectType t) ∈ xs → t.HasOwnFields) :
    let g := editAll {} xs
    let l := Ledger.ofEdits xs
    g.ids.Nodup ∧ g.ids = g.elements.map Element.id ∧
    (g.ids.Pairwise fun a b => l.since? a < l.since? b) ∧
    (∀ id, g.stored? id = l.latest? id) ∧
    (∀ e, g.edit (.insert e) =
      if e.id ∈ g.ids then (.refused (.duplicate e.id), g) else (.done, ⟨g.elements ++ [e]⟩)) ∧
    (∀ id, g.edit (.remove id) =
      (.removed (l.latest? id), ⟨g.elements.filter (·.id ≠ id)⟩)) ∧
    ∀ id e, g.resolve id = some e ↔ e.id = id ∧ (e ∈ g.elements ∨ id ∉ g.ids ∧
      ∃ t f, .objectType t ∈ g.elements ∧ t.id = id.typeId ∧ f ∈ t.fields ∧ e = .field f) := by
  intro g l
  obtain ⟨n, h⟩ := exists_follows_ofEdits xs
  have hstored : ∀ t, .objectType t ∈ g.elements → t.HasOwnFields := by
    intro t ht
    rcases mem_elements_editAll ht with ht | ⟨x, hx, rfl | rfl⟩
    · cases ht
    · exact hown t (Or.inl hx)
    · exact hown t (Or.inr hx)
  refine ⟨h.nodup, rfl, h.ordered, h.stored, g.edit_insert, fun id => ?_,
    fun id e => resolve_eq_some_iff h.nodup hstored⟩
  rw [ElementGraph.edit, remove_eq_filter h.nodup, h.stored]

def accountName : Field Element :=
  { parent := .type "salesforce" "Account", name := "Name", type := .string }

def accountType : ObjectType Element :=
  ObjectType.addField { id := .type "salesforce" "Account" } accountName

def accountEdits : List Edit :=
  [.insert (.objectType { id := .type "salesforce" "Account" }),
    .insert (.objectType { id := .type "salesforce" "Contact" }),
    .upsert (.objectType accountType), .remove (.type "salesforce" "Contact")]

theorem edits_follow_ledger_account :
    (∀ t, .insert (.objectType t) ∈ accountEdits ∨ .upsert (.objectType t) ∈ accountEdits →
      t.HasOwnFields) ∧
    (editAll {} accountEdits).resolve accountName.id = some (.field accountName) := by
  have hown : ∀ t, .insert (.objectType t) ∈ accountEdits ∨
      .upsert (.objectType t) ∈ accountEdits → t.HasOwnFields := by
    intro t ht
    simp only [accountEdits, List.mem_cons, List.not_mem_nil, reduceCtorEq, false_or, or_false,
      Edit.insert.injEq, Edit.upsert.injEq, Element.objectType.injEq] at ht
    rcases ht with (rfl | rfl) | rfl
    · exact ⟨[], nofun, rfl⟩
    · exact ⟨[], nofun, rfl⟩
    · exact ⟨[accountName], List.forall_mem_singleton.2 rfl, rfl⟩
  have h := edits_follow_ledger accountEdits hown
  have hstored : .objectType accountType ∈ (editAll {} accountEdits).elements :=
    List.mem_singleton_self _
  refine ⟨hown, (h.2.2.2.2.2.2 _ _).2 ⟨rfl, Or.inr ⟨by decide, accountType, accountName, ?_⟩⟩⟩
  exact ⟨hstored, rfl, List.mem_singleton_self _, rfl⟩

end ElementGraph

end ElementSync
