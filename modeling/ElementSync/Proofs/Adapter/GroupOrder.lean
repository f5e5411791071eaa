import ElementSync.Proofs.Adapter.Deliveries
import ElementSync.Proofs.Change.Group

/-!
# References between groups

The groups of a list of changes are deployed in the order of their first changes. A reference to a
record of another group neither moves a group nor waits for the identifier that the record is given:
it is resolved to the identifier that was known of its target before.
-/

namespace ElementSync

theorem exists_mem_of_forall₂ {α β : Type} {R : α → β → Prop} {as : List α} {bs : List β}
    (h : List.Forall₂ R as bs) {a : α} (ha : a ∈ as) : ∃ b ∈ bs, R a b := by
  induction h with
  | nil => cases ha
  | @cons c d as bs hcd hrest ih =>
    rcases List.mem_cons.1 ha with rfl | ha
    · exact ⟨d, List.mem_cons_self, hcd⟩
    · obtain ⟨b, hb, hab⟩ := ih ha
      exact ⟨b, List.mem_cons_of_mem d hb, hab⟩

/-- What belongs to two members of a list stands in the order of the members. -/
theorem exists_pair_of_forall₂ {α β : Type} {R : α → List β → Prop} {as : List α}
    {bss : List (List β)} (h : List.Forall₂ R as bss) {a a' : α} (ha : [a, a'].Sublist as) :
    ∃ bs bs', R a bs ∧ R a' bs' ∧ ∀ b ∈ bs, ∀ b' ∈ bs', [b, b'].Sublist bss.flatten := by
  induction h with
  | nil => cases ha
  | @cons c cs as bss hc hrest ih =>
    cases ha with
    | cons _ ha =>
      obtain ⟨bs, bs', hbs, hbs', hpair⟩ := ih ha
      refine ⟨bs, bs', hbs, hbs', ?_⟩
      intro b hb b' hb'
      exact (hpair b hb b' hb').trans (List.sublist_append_right cs bss.flatten)
    | cons_cons _ ha =>
      obtain ⟨bs', hmem, hbs'⟩ := exists_mem_of_forall₂ hrest (List.singleton_sublist.1 ha)
      refine ⟨cs, bs', hc, hbs', ?_⟩
      intro b hb b' hb'
      have hlater : b' ∈ bss.flatten := List.mem_flatten.2 ⟨bs', hmem, hb'⟩
      exact (List.singleton_sublist.2 hb).append (List.singleton_sublist.2 hlater)

namespace Adapter
variable {σ : Type} (a : Adapter) {client : Client σ} {g : ChangeGroup}

theorem send_exchanges (client : Client σ) (groupId : String) (records : List RecordChange)
    (s : Session σ) : ∃ xs, client.Exchanges s xs (a.send client groupId records s).2 := by
  by_cases hgroup : groupId = ChangeGroup.approval
  · subst hgroup
    obtain ⟨xs, hcalls, -⟩ := a.send_approval client records s
    exact ⟨xs, hcalls⟩
  · obtain ⟨xs, hcalls, -⟩ := a.send_batch client hgroup records s
    exact ⟨xs, hcalls⟩

structure OfAdditions (g : ChangeGroup) : Prop where
  id_ne : g.id ≠ metadataGroup
  lacks : Labels.Lacks Labels.labelType (a.unblocked g).changes
  additions : ∀ c ∈ (a.unblocked g).changes, c.action = .add

/-- For every record of the group one is sent whose references to elements outside the group are
the identifiers that are known of these. -/
def Delivers (g : ChangeGroup) (xs : List Exchange) : Prop :=
  ∀ d ∈ (a.unblocked g).records, ∃ x ∈ xs, ∃ c ∈ x.sent, c.id = d.id ∧
    ((Assoc.keys d.data.value).Nodup → ∀ key r, d.data.get? key = some (.reference r) →
      r.target ∉ (a.unblocked g).records.map RecordChange.id →
      c.data.get? key = (r.handle.or (a.source r.target)).bind Strategy.default.serialize)

/-- A group that the filters have prepared goes through. -/
theorem deploy_goes_through (client : Client σ) (s : Session σ) {fs : List Filter}
    {cs : List (Change Element)} (hsome : ¬ (a.unblocked g).changes.isEmpty)
    (hpre : Pipeline.preDeploy a.context a.filters (a.unblocked g).changes s =
      ((fs, ⟨cs, .ok ()⟩), s)) (hfs : ∀ f ∈ fs, f.isBuiltIn) :
    ∃ fs' o xs s', a.deploy client g s = (({ a with filters := fs' }, .ok o), s') ∧
      (∀ f ∈ fs', f.isBuiltIn) ∧ client.Exchanges s xs s' := by
  obtain ⟨xs, hcalls⟩ :=
    a.send_exchanges client g.id (ChangeGroup.records { g with changes := cs }) s
  obtain ⟨fs', o, hdeploy, hfs', -⟩ := a.deploy_of_preDeploy client s hsome hpre hfs rfl
  exact ⟨fs', o, xs, _, hdeploy, hfs', hcalls⟩

section
variable (hfilters : ∀ f ∈ a.filters, f.isBuiltIn)
include hfilters

theorem deploy_succeeds (client : Client σ) (s : Session σ)
    (hlabels : Labels.Lacks Labels.labelType (a.unblocked g).changes ∨
      (Labels.knownType? a.source).isSome) :
    ∃ fs o xs s', a.deploy client g s = (({ a with filters := fs }, .ok o), s') ∧
      (∀ f ∈ fs, f.isBuiltIn) ∧ client.Exchanges s xs s' := by
  by_cases hempty : (a.unblocked g).changes.isEmpty
  case pos =>
    exact ⟨a.filters, _, [], s, a.deploy_of_isEmpty client s hempty, hfilters, .nil s⟩
  case neg =>
    obtain ⟨fs, cs, hpre, hfs, -⟩ := Pipeline.run_succeeds (Filter.preDeploy_succeeds a.context)
      a.filters (a.unblocked g).changes s hfilters hlabels
    exact a.deploy_goes_through client s hempty hpre hfs

theorem deploy_delivers (hclient : client.CreatesEach) (s : Session σ) (hg : a.OfAdditions g) :
    ∃ fs o xs s', a.deploy client g s = (({ a with filters := fs }, .ok o), s') ∧
      (∀ f ∈ fs, f.isBuiltIn) ∧ client.Exchanges s xs s' ∧ a.Delivers g xs := by
  obtain ⟨f, fs, o, hdeploys⟩ := a.exists_deploys client g s hfilters hg.lacks
  have hadditions : ∀ c ∈ (a.unblocked g).records, c.action = .add := by
    intro c hc
    rw [← Change.action_map Element.inst c]
    exact hg.additions _ (ChangeGroup.mem_records.1 hc).1
  obtain ⟨xs, hcalls, hsent⟩ := a.send_delivers hdeploys.packs hclient g.id hadditions s
  refine ⟨fs, o, xs, _, hdeploys.deploy_eq, hdeploys.isBuiltIn, hcalls, ?_⟩
  intro d hd
  obtain ⟨x, hx, e, he, hmem⟩ := hsent d hd
  refine ⟨x, hx, _, hmem, (RecordChange.id_resolveChange _ e).trans he.id_eq, ?_⟩
  intro hkeys key r hr htarget
  apply a.get?_resolveChange hg.id_ne
  · rwa [he.keys]
  · exact he.get?_eq key r hr htarget
  · rwa [RecordChange.map_id_mapAfter hdeploys.packs]

/-- Groups are deployed one after the other. -/
theorem deployGroups_run (hclient : client.CreatesEach) (gs : List ChangeGroup) (s : Session σ)
    (hlabels : ∀ g ∈ gs, Labels.Lacks Labels.labelType (a.unblocked g).changes ∨
      (Labels.knownType? a.source).isSome) :
    ∃ xss, client.Exchanges s xss.flatten (a.deployGroups client gs s).2 ∧
      List.Forall₂ (fun g xs => a.OfAdditions g → a.Delivers g xs) gs xss := by
  induction gs generalizing a s with
  | nil => exact ⟨[], .nil s, .nil⟩
  | cons g gs ih =>
    obtain ⟨hg, hgs⟩ := List.forall_mem_cons.1 hlabels
    obtain ⟨fs, o, xs, s', hdeploy, hfs, hcalls, hdelivers⟩ :
        ∃ fs o xs s', a.deploy client g s = (({ a with filters := fs }, .ok o), s') ∧
          (∀ f ∈ fs, f.isBuiltIn) ∧ client.Exchanges s xs s' ∧
          (a.OfAdditions g → a.Delivers g xs) := by
      by_cases hof : a.OfAdditions g
      · obtain ⟨fs, o, xs, s', hdeploy, hfs, hcalls, hdelivers⟩ :=
          a.deploy_delivers hfilters hclient s hof
        exact ⟨fs, o, xs, s', hdeploy, hfs, hcalls, fun _ => hdelivers⟩
      · obtain ⟨fs, o, xs, s', hdeploy, hfs, hcalls⟩ := a.deploy_succeeds hfilters client s hg
        exact ⟨fs, o, xs, s', hdeploy, hfs, hcalls, fun h => absurd h hof⟩
    obtain ⟨xss, hrest, hforall⟩ := ih { a with filters := fs } hfs s' hgs
    have hdelivered : List.Forall₂ (fun g xs => a.OfAdditions g → a.Delivers g xs) gs xss :=
      hforall.imp fun g xs h hof => h ⟨hof.id_ne, hof.lacks, hof.additions⟩
    refine ⟨xs :: xss, ?_, .cons hdelivers hdelivered⟩
    have hrun : (a.deployGroups client (g :: gs) s).2 =
        (deployGroups client { a with filters := fs } gs s').2 := by
      simp only [deployGroups, bind, StateT.bind, hdeploy]
      rfl
    rw [hrun, List.flatten_cons]
    exact hcalls.append hrest

end

section
variable (cs : List (Change Element)) {p q : Instance Element}

def groupOf (i : Instance Element) : ChangeGroup :=
  ChangeGroup.withId cs (ChangeGroup.idOf (.addition (.inst i)))

structure Adds (i : Instance Element) : Prop where
  isRecord : i.isRecord
  not_label : i.typeName ≠ Labels.labelType
  unblocked : .addition (.inst i) ∈ (a.unblocked (groupOf cs i)).changes

structure RefersAcross (p q : Instance Element) (key : String) (r : Reference Element) : Prop where
  target : a.Adds cs p
  source : a.Adds cs q
  apart : (groupOf cs p).id ≠ (groupOf cs q).id
  keys : (Assoc.keys q.value).Nodup
  get?_eq : q.get? key = some (.reference r)
  target_eq : r.target = p.id

def position (i : Instance Element) : Nat :=
  (cs.map ChangeGroup.idOf).idxOf (ChangeGroup.idOf (.addition (.inst i)))

variable {a} {cs}

theorem Adds.mem (hq : a.Adds cs q) : .addition (.inst q) ∈ cs :=
  List.filter_sublist.subset (a.unblocked_subset hq.unblocked)

theorem Adds.mem_records (hq : a.Adds cs q) :
    .addition q ∈ (a.unblocked (groupOf cs q)).records :=
  ChangeGroup.mem_records.2 ⟨hq.unblocked, hq.isRecord⟩

theorem Adds.ofAdditions (hq : a.Adds cs q) : a.OfAdditions (groupOf cs q) where
  id_ne := by
    intro h
    have hhead := ChangeGroup.head?_additionsOf q.typeName
    rw [← ChangeGroup.idOf_addition hq.isRecord] at hhead
    have hmetadata : metadataGroup.toList.head? ≠ some 'a' := by decide
    rw [show ChangeGroup.idOf (.addition (.inst q)) = metadataGroup from h] at hhead
    exact hmetadata hhead
  lacks := a.lacks_unblocked (ChangeGroup.lacks_labelType_withId hq.isRecord hq.not_label)
  additions c hc := by
    have hid := of_decide_eq_true (List.mem_filter.1 (a.unblocked_subset hc)).2
    rw [ChangeGroup.idOf_addition hq.isRecord] at hid
    obtain ⟨i, rfl, -⟩ := ChangeGroup.exists_addition_of_idOf hid
    rfl

theorem RefersAcross.target_notMem {key : String} {r : Reference Element}
    (h : a.RefersAcross cs p q key r) :
    r.target ∉ (a.unblocked (groupOf cs q)).records.map RecordChange.id := by
  intro hmem
  obtain ⟨d, hd, hid⟩ := List.mem_map.1 hmem
  refine ChangeGroup.id_ne_of_mem_withId h.source.isRecord h.target.isRecord h.apart
    (a.unblocked_subset (ChangeGroup.mem_records.1 hd).1) ?_
  rw [RecordChange.id_toChange, hid, h.target_eq]

/-- What is delivered for the groups of the two records. -/
theorem RefersAcross.exists_sent {key : String} {r : Reference Element}
    (h : a.RefersAcross cs p q key r) {xs ys : List Exchange}
    (hxs : a.OfAdditions (groupOf cs p) → a.Delivers (groupOf cs p) xs)
    (hys : a.OfAdditions (groupOf cs q) → a.Delivers (groupOf cs q) ys) :
    ∃ x ∈ xs, ∃ y ∈ ys, (∃ c ∈ x.sent, c.id = p.id) ∧ ∃ c ∈ y.sent, c.id = q.id ∧
      c.data.get? key = (r.handle.or (a.source p.id)).bind Strategy.default.serialize := by
  obtain ⟨x, hx, c, hc, hid, -⟩ := hxs h.target.ofAdditions _ h.target.mem_records
  obtain ⟨y, hy, d, hd, hid', hget⟩ := hys h.source.ofAdditions _ h.source.mem_records
  refine ⟨x, hx, y, hy, ⟨c, hc, hid⟩, d, hd, hid', ?_⟩
  rw [← h.target_eq]
  exact hget h.keys key r h.get?_eq h.target_notMem

/-- Different groups stand at different positions. -/
theorem RefersAcross.position_ne {key : String} {r : Reference Element}
    (h : a.RefersAcross cs p q key r) : position cs p ≠ position cs q := by
  intro heq
  exact h.apart ((List.idxOf_inj (List.mem_map_of_mem h.target.mem)).1 heq)

/-- Of two groups the one that comes first in the list is deployed first. -/
theorem Adds.pair_sublist (hp : a.Adds cs p) (hq : a.Adds cs q)
    (h : position cs p < position cs q) :
    [groupOf cs p, groupOf cs q].Sublist (ChangeGroup.ofChanges cs) :=
  ChangeGroup.pair_sublist_ofChanges hp.mem hq.mem h

/-- When a list changes labels only with a known container, so does each of its groups. -/
theorem lacks_or_known_of_mem_ofChanges
    (hlabels : ∀ c ∈ cs, Labels.isLabelChange c → (Labels.knownType? a.source).isSome)
    {g : ChangeGroup} (hg : g ∈ ChangeGroup.ofChanges cs) :
    Labels.Lacks Labels.labelType (a.unblocked g).changes ∨
      (Labels.knownType? a.source).isSome := by
  rw [ChangeGroup.ofChanges_eq] at hg
  obtain ⟨i, -, rfl⟩ := List.mem_map.1 hg
  by_cases hknown : (Labels.knownType? a.source).isSome
  case pos => exact Or.inr hknown
  case neg =>
    refine Or.inl fun c hc => Bool.eq_false_iff.2 fun hlabel => hknown ?_
    exact hlabels c (List.filter_sublist.subset (a.unblocked_subset hc)) hlabel

variable (a) (cs)

/-- A record and a record of another group that it refers to are both sent, in the order in which
their groups come in the list. The reference is sent as the identifier that was known of its target
before the deploy. -/
theorem deployChanges_order (client : Client σ) (s : Session σ)
    (hfilters : ∀ f ∈ a.filters, f.isBuiltIn) (hclient : client.CreatesEach)
    (hlabels : ∀ c ∈ cs, Labels.isLabelChange c → (Labels.knownType? a.source).isSome) :
    ∃ xs, client.Exchanges s xs (a.deployChanges client cs s).2 ∧
      ∀ (p q : Instance Element) (key : String) (r : Reference Element),
        a.RefersAcross cs p q key r →
        ∃ x ∈ xs, ∃ y ∈ xs, (∃ c ∈ x.sent, c.id = p.id) ∧
          (∃ c ∈ y.sent, c.id = q.id ∧
            c.data.get? key = (r.handle.or (a.source p.id)).bind Strategy.default.serialize) ∧
          if position cs p < position cs q then [x, y].Sublist xs else [y, x].Sublist xs := by
  obtain ⟨xss, hcalls, hdelivered⟩ := a.deployGroups_run hfilters hclient
    (ChangeGroup.ofChanges cs) s fun g => lacks_or_known_of_mem_ofChanges hlabels
  refine ⟨xss.flatten, hcalls, ?_⟩
  intro p q key r h
  by_cases hfirst : position cs p < position cs q
  case pos =>
    obtain ⟨xs, ys, hxs, hys, hpair⟩ :=
      exists_pair_of_forall₂ hdelivered (h.target.pair_sublist h.source hfirst)
    obtain ⟨x, hx, y, hy, hp, hq⟩ := h.exists_sent hxs hys
    have hxy := hpair x hx y hy
    refine ⟨x, hxy.subset List.mem_cons_self, y, hxy.subset (by simp), hp, hq, ?_⟩
    rwa [if_pos hfirst]
  case neg =>
    have hlater : position cs q < position cs p :=
      Nat.lt_of_le_of_ne (Nat.le_of_not_lt hfirst) h.position_ne.symm
    obtain ⟨ys, xs, hys, hxs, hpair⟩ :=
      exists_pair_of_forall₂ hdelivered (h.source.pair_sublist h.target hlater)
    obtain ⟨x, hx, y, hy, hp, hq⟩ := h.exists_sent hxs hys
    have hyx := hpair y hy x hx
    refine ⟨x, hyx.subset (by simp), y, hyx.subset List.mem_cons_self, hp, hq, ?_⟩
    rwa [if_neg hfirst]

end

def acme : Instance Element where
  name := "Acme"
  type := Approval.recordType "Account"
  value := [("Name", .text "Acme")]

def ann : Instance Element where
  name := "Ann"
  type := Approval.recordType "Contact"
  value := [("Name", .text "Ann"), ("AccountId", .reference ⟨acme.id, none⟩)]

def contactFirst : List (Change Element) := [.addition (.inst ann), .addition (.inst acme)]

theorem refersAcross_contactFirst :
    (ofProfile {} {}).RefersAcross contactFirst acme ann "AccountId" ⟨acme.id, none⟩ := by
  constructor
  case target =>
    refine ⟨by decide, by decide, List.mem_filter.2 ⟨List.mem_filter.2 ⟨?_, by decide⟩, ?_⟩⟩
    · exact List.mem_cons_of_mem _ List.mem_cons_self
    · decide +kernel
  case source =>
    refine ⟨by decide, by decide, List.mem_filter.2 ⟨List.mem_filter.2 ⟨?_, by decide⟩, ?_⟩⟩
    · exact List.mem_cons_self
    · decide +kernel
  case apart => decide
  case keys => decide
  case get?_eq => rfl
  case target_eq => rfl

theorem deployChanges_order_contact :
    ∃ xs, (InMemory.client {}).Exchanges { state := 0 } xs
        ((ofProfile {} {}).deployChanges (InMemory.client {}) contactFirst { state := 0 }).2 ∧
      ∃ x ∈ xs, ∃ y ∈ xs, (∃ c ∈ x.sent, c.id = acme.id) ∧
        (∃ c ∈ y.sent, c.id = ann.id ∧ c.data.get? "AccountId" = none) ∧ [y, x].Sublist xs := by
  obtain ⟨xs, hcalls, horder⟩ := (ofProfile {} {}).deployChanges_order contactFirst
    (InMemory.client {}) { state := 0 } (fun f hf => Filter.isBuiltIn_of_mem_builtIn hf)
    InMemory.client_createsEach (by decide)
  have hlater : ¬ position contactFirst acme < position contactFirst ann := by decide
  obtain ⟨x, hx, y, hy, hp, hq, hpair⟩ := horder _ _ _ _ refersAcross_contactFirst
  rw [if_neg hlater] at hpair
  exact ⟨xs, hcalls, x, hx, y, hy, hp, hq, hpair⟩

/-- The account is sent after the contact, which goes out without it; and so does a contact that is
added after its account. -/
theorem deployChanges_contact_unlinked :
    (ofProfile {} {}).RefersAcross contactFirst acme ann "AccountId" ⟨acme.id, none⟩ ∧
      (InMemory.client {}).CreatesEach ∧
      ((ofProfile {} {}).deployChanges (InMemory.client {}) contactFirst
          { state := 0 }).2.trace.batches.map
        (·.map fun c => (c.id, (c.data.get? "AccountId").isNone)) =
        [[(ann.id, true)], [(acme.id, true)]] ∧
      ((ofProfile {} {}).deployChanges (InMemory.client {}) contactFirst.reverse
          { state := 0 }).2.trace.batches.map
        (·.map fun c => (c.id, (c.data.get? "AccountId").isNone)) =
        [[(acme.id, true)], [(ann.id, true)]] := by
  refine ⟨refersAcross_contactFirst, InMemory.client_createsEach, ?_, ?_⟩
  · decide +kernel
  · decide +kernel

end Adapter

end ElementSync
