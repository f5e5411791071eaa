import ElementSync.Proofs.ConditionLogic.Survival
import ElementSync.Proofs.Filter.Leftovers

/-!
# The built-in filters there and back

Before a deploy the filters pack logic and merge the changes of labels into one. Run on what they
left, the hooks after the deploy give the changes back as they were, with those of labels behind
the others, and the filters have nothing saved again.
-/

namespace ElementSync

namespace Labels
variable {source : ElementSource} {cs : List (Change Element)}

theorem merge_eq_ok_iff :
    (merge source cs).2 = .ok () ↔ Lacks labelType cs ∨ (knownType? source).isSome := by
  rcases merge_cases source cs with
    ⟨hlacks, hmerge⟩ | ⟨hlabels, ⟨type, htype, hmerge⟩ | ⟨hnone, hmerge⟩⟩
  · simp [hmerge, hlacks]
  · simp [hmerge, htype]
  · simp [hmerge, hlabels, hnone]

/-- Merging brings in one change at most. -/
theorem mem_merge {c : Change Element} (h : c ∈ (merge source cs).1) :
    c ∈ cs ∨ (¬ Lacks labelType cs ∧
      ∃ type, knownType? source = some type ∧ c = merged type (cs.filter isLabelChange)) := by
  have hothers : ∀ c ∈ cs.filter (!isLabelChange ·), c ∈ cs := fun c hc => (List.mem_filter.1 hc).1
  rcases merge_cases source cs with
    ⟨-, hmerge⟩ | ⟨hlabels, ⟨type, htype, hmerge⟩ | ⟨-, hmerge⟩⟩
  · exact .inl (by rwa [hmerge] at h)
  · rw [hmerge] at h
    rcases List.mem_append.1 h with h | h
    · exact .inl (hothers c h)
    · exact .inr ⟨hlabels, type, htype, List.mem_singleton.1 h⟩
  · rw [hmerge] at h
    exact .inl (hothers c h)

/-- The merged change is one of a container, if the source knows types by their ids. -/
theorem isContainerChange_merged {type : ObjectType Element}
    (hsource : ∀ e, source (.type salesforce containerType) = some e →
      e.id = .type salesforce containerType)
    (htype : knownType? source = some type) (changes : List (Change Element)) :
    isContainerChange (merged type changes) = true := by
  obtain ⟨e, he, hobject⟩ := Option.bind_eq_some_iff.1 htype
  have hid := hsource e he
  cases e with
  | objectType t =>
    cases hobject
    have hname : type.id.typeName = containerType := congrArg ElementId.typeName hid
    exact decide_eq_true hname
  | _ => cases hobject

theorem restore_append_of_isContainerChange {c : Change Element} (hc : isContainerChange c = true)
    (hcs : Lacks containerType cs) (saved : List (Change Element)) :
    restore saved (cs ++ [c]) = cs ++ saved := by
  have hkept : cs.filter (!isContainerChange ·) = cs :=
    List.filter_eq_self.2 fun d hd => by simpa [isContainerChange] using hcs d hd
  simp [restore, hc, hkept]

theorem saves_of_merge {left : List (Change Element)} (hmerge : merge source cs = (left, .ok ())) :
    saves source cs [] = cs.filter isLabelChange := by
  cases h : cs.filter isLabelChange <;> simp [saves, hmerge, h, Except.isOk, Except.toBool]

/-- Changes of labels were merged and are saved, or there were none. -/
theorem restore_merge {left : List (Change Element)}
    (hsource : ∀ e, source (.type salesforce containerType) = some e →
      e.id = .type salesforce containerType)
    (hcs : Lacks containerType cs) (hmerge : merge source cs = (left, .ok ())) :
    restore (saves source cs []) left =
      cs.filter (!isLabelChange ·) ++ cs.filter isLabelChange := by
  rw [saves_of_merge hmerge]
  rcases merge_cases source cs with
    ⟨hlacks, hnone⟩ | ⟨-, ⟨type, htype, hmerged⟩ | ⟨-, hfails⟩⟩
  · cases hnone.symm.trans hmerge
    rw [filter_isLabelChange_eq_nil_iff.2 hlacks, filter_not_isLabelChange_of_lacks hlacks,
      List.append_nil, restore_of_lacks _ hcs]
  · cases hmerged.symm.trans hmerge
    have hothers : Lacks containerType (cs.filter (!isLabelChange ·)) :=
      fun c hc => hcs c (List.mem_filter.1 hc).1
    exact restore_append_of_isContainerChange (isContainerChange_merged hsource htype _) hothers _
  · cases hfails.symm.trans hmerge

end Labels

theorem ElementGraph.id_of_source {g : ElementGraph} {adapter name : String} {e : Element}
    (h : g.source (.type adapter name) = some e) : e.id = .type adapter name := by
  rw [source, resolve] at h
  split at h
  case h_1 d hd =>
    cases h
    have hfound := List.find?_some hd
    exact of_decide_eq_true hfound
  case h_2 => simp [ElementId.type] at h

namespace Pipeline
variable {σ : Type} (maxDescribes : Nat)

open ConditionLogic

theorem isOf_data_mapAfter_packRule (typeName : String) (c : LookupContext)
    (d : Change Element) :
    Labels.isOf typeName (mapAfter (packRule c) d).data = Labels.isOf typeName d.data :=
  Labels.isOf_data_mapAfter (fun i => (packsInto_packRule c i).outline) typeName d

theorem lacks_packChanges_iff {typeName : String} {source : ElementSource}
    {cs : List (Change Element)} :
    Labels.Lacks typeName (packChanges source cs) ↔ Labels.Lacks typeName cs := by
  simp [Labels.Lacks, packChanges, isOf_data_mapAfter_packRule]

theorem filter_packChanges (source : ElementSource) (cs : List (Change Element)) :
    (packChanges source cs).filter Labels.isLabelChange =
        (cs.filter Labels.isLabelChange).map (mapAfter (packRule (contextOf source cs))) ∧
      (packChanges source cs).filter (!Labels.isLabelChange ·) =
        (cs.filter (!Labels.isLabelChange ·)).map (mapAfter (packRule (contextOf source cs))) := by
  have hlabel : ∀ d : Change Element, Labels.isLabelChange
      (mapAfter (packRule (contextOf source cs)) d) = Labels.isLabelChange d :=
    isOf_data_mapAfter_packRule _ _
  simp only [packChanges, List.filter_map, Function.comp_def, hlabel, and_self]

theorem restoreChanges_of_subset (source : ElementSource) {cs ds : List (Change Element)}
    (hids : (cs.map Change.id).Nodup) (hds : ds ⊆ cs) :
    restoreChanges (saveChanges source cs [])
      (ds.map (mapAfter (packRule (contextOf source cs)))) = ds := by
  let reports : List (Change Element × Values Element) := ds.map (·, [])
  have hreports : ∀ r ∈ reports, r.1 ∈ cs ∧ ∀ key ∈ Assoc.keys r.2, key ∉ logicFields := by
    intro r hr
    obtain ⟨d, hd, rfl⟩ := List.mem_map.1 hr
    exact ⟨hds hd, by simp [Assoc.keys]⟩
  simpa [reports, Function.comp_def] using restoreChanges_packed source hids hreports

/-- The hooks after a deploy undo the hooks before it. -/
theorem onDeploy_preDeploy {context : FilterContext}
    (hsource : ∀ e, context.source (.type salesforce Labels.containerType) = some e →
      e.id = .type salesforce Labels.containerType)
    {cs : List (Change Element)} (hids : (cs.map Change.id).Nodup)
    (hcs : Labels.Lacks Labels.containerType cs) (s : Session σ) :
    ∃ fs left result,
      preDeploy context (Filter.builtIn maxDescribes) cs s = ((fs, ⟨left, result⟩), s) ∧
      (result = .ok () ↔
        Labels.Lacks Labels.labelType cs ∨ (Labels.knownType? context.source).isSome) ∧
      (result = .ok () → ∀ s' : Session σ,
        onDeploy fs left s' = ((Filter.builtIn maxDescribes,
          ⟨cs.filter (!Labels.isLabelChange ·) ++ cs.filter Labels.isLabelChange, .ok ()⟩), s')) := by
  refine ⟨_, _, _, preDeploy_builtInWith_eq maxDescribes context [] [] cs s, ?_, ?_⟩
  · rw [Labels.merge_eq_ok_iff, lacks_packChanges_iff]
  · intro hok s'
    have hmerge : Labels.merge context.source (packChanges context.source cs) =
        ((Labels.merge context.source (packChanges context.source cs)).1, .ok ()) :=
      Prod.ext rfl hok
    have hsub : cs.filter (!Labels.isLabelChange ·) ++ cs.filter Labels.isLabelChange ⊆ cs :=
      List.append_subset.2 ⟨List.filter_sublist.subset, List.filter_sublist.subset⟩
    obtain ⟨hlabels, hothers⟩ := filter_packChanges context.source cs
    rw [onDeploy_builtInWith, Labels.restore_merge hsource (lacks_packChanges_iff.2 hcs) hmerge,
      hlabels, hothers, ← List.map_append, restoreChanges_of_subset context.source hids hsub]
    rfl

/-- A label comes, another goes, and between them stand a rule that can be packed and one that
cannot, for want of its condition. -/
theorem onDeploy_preDeploy_tiers :
    let known : ElementGraph :=
      { elements := [.objectType { id := .type salesforce Labels.containerType }] }
    let context : FilterContext := { source := known.source }
    let label (name : String) : Element :=
      .inst { name := name, type := { id := .type salesforce Labels.labelType } }
    let tier := Filter.tierRule
    let fetched := unpackInstance Filter.tiers tier
    let lost : Reference Element := { target := .inst salesforce Approval.conditionType "Lost" }
    let orphan : Instance Element :=
      { tier with name := "Orphan",
                  value := [("sbaa__AdvancedCondition__c", .template ⟨[.reference lost]⟩)] }
    let comes := Change.addition (label "Greeting")
    let rule := Change.modification (.inst fetched) (.inst (fetched.set "Name" (.text "Tier")))
    let goes := Change.removal (label "Old")
    let other := Change.addition (.inst orphan)
    ∃ fs left, preDeploy context (Filter.builtIn 10) [comes, rule, goes, other]
        ({ state := () } : Session Unit) = ((fs, ⟨left, .ok ()⟩), { state := () }) ∧
      onDeploy fs left ({ state := () } : Session Unit) =
        ((Filter.builtIn 10, ⟨[rule, other, comes, goes], .ok ()⟩), { state := () }) := by
  intro known context label tier fetched lost orphan comes rule goes other
  have hsource : ∀ e, context.source (.type salesforce Labels.containerType) = some e →
      e.id = .type salesforce Labels.containerType :=
    fun e he => ElementGraph.id_of_source (g := known) he
  have hids : ([comes, rule, goes, other].map Change.id).Nodup := by decide +kernel
  have hlacks : Labels.Lacks Labels.containerType [comes, rule, goes, other] := by
    unfold Labels.Lacks
    decide +kernel
  obtain ⟨fs, left, result, hpre, hresult, hpost⟩ :=
    onDeploy_preDeploy 10 hsource hids hlacks ({ state := () } : Session Unit)
  obtain rfl := hresult.2 (.inr rfl)
  exact ⟨fs, left, hpre, hpost rfl _⟩

end Pipeline

end ElementSync
