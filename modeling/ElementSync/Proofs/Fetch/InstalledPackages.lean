import ElementSync.Filter.Basic
import ElementSync.Proofs.Fetch.References
import Mathlib.Data.List.Forall2

/-!
# Dependencies on installed packages

An element that a package of the list owns gets a dependency on the package behind those that it
had, unless one of them is on the package already. Nothing else in the list changes, so the names
that decide which package owns an element stay, and a second run finds every dependency there.
-/

namespace ElementSync

theorem Assoc.remove_put {κ α : Type} [DecidableEq κ] (m : Assoc κ α) (k : κ) (a : α) :
    remove (put m k a) k = remove m k := by
  induction m with
  | nil => simp [put, remove]
  | cons e m ih =>
    by_cases hl : e.1 = k
    · simp [put, remove, hl]
    · simp [put, remove, hl, ih]

theorem Assoc.keys_prefix_keys_put {κ α : Type} [DecidableEq κ] (m : Assoc κ α) (k : κ) (a : α) :
    keys m <+: keys (put m k a) := by
  by_cases hk : k ∈ keys m
  · simp only [keys_put_of_mem hk, List.prefix_rfl]
  · rw [keys_put_of_notMem hk]
    exact List.prefix_append _ _

namespace Element

def mapFields (g : Field Element → Field Element) : Element → Element
  | .objectType t => .objectType { t with fields := t.fields.map g }
  | e => e

theorem mapFields_mapFields (g h : Field Element → Field Element) (e : Element) :
    (e.mapFields g).mapFields h = e.mapFields (h ∘ g) := by
  cases e with
  | objectType t => simp [mapFields]
  | _ => rfl

theorem apiName?_mapFields (g : Field Element → Field Element) (e : Element) :
    (e.mapFields g).apiName? = e.apiName? := by
  cases e <;> rfl

theorem annotations_setAnnotations (e : Element) (as : Values Element) :
    (e.setAnnotations as).annotations = as := by
  cases e <;> rfl

theorem setAnnotations_setAnnotations (e : Element) (as bs : Values Element) :
    (e.setAnnotations as).setAnnotations bs = e.setAnnotations bs := by
  cases e <;> rfl

theorem apiName?_setAnnotations {e : Element} {as : Values Element}
    (h : as.lookup AnnotationKey.apiName = e.annotations.lookup AnnotationKey.apiName) :
    (e.setAnnotations as).apiName? = e.apiName? := by
  cases e with
  | inst i => rfl
  | _ =>
    simp only [annotations] at h
    simp only [setAnnotations, apiName?, ObjectType.annotationText?, h]

end Element

namespace PackageDependencies

/-! ### The package of an element -/

def isPackage (e : Element) : Bool := e.inst?.any (·.typeName = Validation.installedPackage)

def packages (es : List Element) (e : Element) : List Element :=
  if e.hasNamespace then
    es.filter fun p => isPackage p && p.apiName? = some e.namespaceName
  else []

theorem packageOf?_eq_getLast? (es : List Element) (e : Element) :
    packageOf? es e = (packages es e).getLast? := by
  rw [packageOf?, packages]
  split
  · rw [package?, ← List.head?_filter, List.filter_reverse, List.head?_reverse]
    congr 1
    apply List.filter_congr
    intro p _
    cases p <;> rfl
  · rfl

variable {d e : Element}

theorem packages_congr (h : d.apiName? = e.apiName?) (es : List Element) :
    packages es d = packages es e := by
  have hname : d.relativeName? = e.relativeName? := by
    rw [Element.relativeName?, h, ← Element.relativeName?]
  rw [packages, packages, Element.hasNamespace, Element.hasNamespace, Element.namespaceName,
    Element.namespaceName, hname]

/-! ### Adding a dependency -/

def dependency (p : Element) : Value Element := .mapping [(referenceKey, .reference (.ofElement p))]

def dependencies (as : Values Element) : List (Value Element) :=
  ((as.lookup AnnotationKey.generatedDependencies).bind Value.sequence?).getD []

/-- What stands in the place of the dependencies, if anything, is a list. -/
def HasRoom (as : Values Element) : Prop :=
  ∀ v, as.lookup AnnotationKey.generatedDependencies = some v → v.sequence?.isSome

def withDependencies (as : Values Element) (ds : List (Value Element)) : Values Element :=
  Assoc.put as AnnotationKey.generatedDependencies (.sequence ds)

section
variable {p q : Element} {as : Values Element} {ds : List (Value Element)}

@[simp] theorem dependencies_withDependencies : dependencies (withDependencies as ds) = ds := by
  rw [dependencies, withDependencies, Assoc.lookup_put, if_pos rfl]
  rfl

theorem extend_eq_self (h : ¬ HasRoom as ∨ ∃ d ∈ dependencies as, dependsOn p.id d = true) :
    extend p as = as := by
  rw [extend]
  split
  next hnone =>
    rcases h with h | ⟨d, hd, -⟩
    · exact absurd (fun v hv => by rw [hnone] at hv; cases hv) h
    · simp [dependencies, hnone] at hd
  next ds hds =>
    rcases h with h | ⟨d, hd, hon⟩
    · exact absurd (fun v hv => by rw [hds] at hv; cases hv; rfl) h
    · have hmem : d ∈ ds := by simpa [dependencies, hds, Value.sequence?] using hd
      rw [if_pos (List.any_eq_true.2 ⟨d, hmem, hon⟩)]
  · rfl

theorem extend_of_forall (hroom : HasRoom as)
    (h : ∀ d ∈ dependencies as, dependsOn p.id d = false) :
    extend p as = withDependencies as (dependencies as ++ [dependency p]) := by
  rw [extend]
  split
  next hnone => simp [dependencies, hnone]; rfl
  next ds hds =>
    have heq : dependencies as = ds := by simp [dependencies, hds, Value.sequence?]
    rw [heq] at h ⊢
    have hany : ds.any (dependsOn p.id) = false := by simpa using h
    rw [hany]
    rfl
  next v hnotList hv =>
    obtain ⟨ds, hds⟩ := Option.isSome_iff_exists.1 (hroom v hv)
    exact absurd (Value.eq_sequence_of_sequence? hds) (hnotList ds)

theorem extend_cases (p : Element) (as : Values Element) :
    ((¬ HasRoom as ∨ ∃ d ∈ dependencies as, dependsOn p.id d = true) ∧ extend p as = as) ∨
      HasRoom as ∧ (∀ d ∈ dependencies as, dependsOn p.id d = false) ∧
        extend p as = withDependencies as (dependencies as ++ [dependency p]) := by
  by_cases h : ¬ HasRoom as ∨ ∃ d ∈ dependencies as, dependsOn p.id d = true
  · exact .inl ⟨h, extend_eq_self h⟩
  · rw [not_or, not_not] at h
    have hnone : ∀ d ∈ dependencies as, dependsOn p.id d = false := fun d hd =>
      Bool.eq_false_iff.2 fun hon => h.2 ⟨d, hd, hon⟩
    exact .inr ⟨h.1, hnone, extend_of_forall h.1 hnone⟩

theorem dependsOn_dependency (h : q.id = p.id) : dependsOn q.id (dependency p) = true := by
  simp [dependsOn, dependency, Value.mapping?, Value.reference?, Reference.ofElement, h]

/-- A dependency is added once, whichever state of the package it is on. -/
theorem extend_extend (h : q.id = p.id) : extend q (extend p as) = extend p as := by
  refine extend_eq_self ?_
  rcases extend_cases p as with ⟨hstay, heq⟩ | ⟨-, -, heq⟩
  · rw [heq, h]
    exact hstay
  · rw [heq, dependencies_withDependencies]
    exact .inr ⟨dependency p, by simp, dependsOn_dependency h⟩

theorem lookup_extend_of_ne {key : String} (hkey : key ≠ AnnotationKey.generatedDependencies) :
    (extend p as).lookup key = as.lookup key := by
  rcases extend_cases p as with ⟨-, heq⟩ | ⟨-, -, heq⟩ <;> rw [heq]
  rw [withDependencies, Assoc.lookup_put, if_neg hkey]

end

/-! ### What linking leaves of an element -/

theorem linkField_of_package {es : List Element} {f : Field Element} {p : Element}
    (h : packageOf? es (.field f) = some p) :
    linkField es f = { f with annotations := extend p f.annotations } := by
  rw [linkField, h]

theorem linkField_of_none {es : List Element} {f : Field Element}
    (h : packageOf? es (.field f) = none) : linkField es f = f := by
  rw [linkField, h]

/-- Only the fields of a type without a package are looked at. -/
theorem linkElement_of_none {es : List Element} (h : packageOf? es e = none) :
    linkElement es e = e.mapFields (linkField es) := by
  cases e <;> simp only [linkElement, h] <;> rfl

theorem id_linkElement (es : List Element) (e : Element) : (linkElement es e).id = e.id :=
  (linkElement_linksTo es).id_eq e

theorem apiName?_linkField (es : List Element) (f : Field Element) :
    (Element.field (linkField es f)).apiName? = (Element.field f).apiName? := by
  cases h : packageOf? es (.field f) with
  | none => rw [linkField_of_none h]
  | some p =>
    rw [linkField_of_package h]
    exact Element.apiName?_setAnnotations (e := .field f) (lookup_extend_of_ne (by decide))

theorem apiName?_linkElement (es : List Element) (e : Element) :
    (linkElement es e).apiName? = e.apiName? := by
  cases h : packageOf? es e with
  | none => rw [linkElement_of_none h, Element.apiName?_mapFields]
  | some p =>
    rw [linkElement_of_package h]
    exact Element.apiName?_setAnnotations (lookup_extend_of_ne (by decide))

theorem isPackage_linkElement (es : List Element) (e : Element) :
    isPackage (linkElement es e) = isPackage e := by
  cases h : packageOf? es e with
  | none => rw [linkElement_of_none h]; cases e <;> rfl
  | some p => rw [linkElement_of_package h]; cases e <;> rfl

/-! ### A second run -/

/-- The packages of a linked list are those of the list, linked. -/
theorem packages_link (es : List Element) (e : Element) :
    packages (link es) e = (packages es e).map (linkElement es) := by
  rw [packages, packages]
  split
  · rw [link, List.filter_map]
    congr 1
    apply List.filter_congr
    intro p _
    rw [Function.comp_apply, isPackage_linkElement, apiName?_linkElement]
  · rfl

theorem packageOf?_link (h : d.apiName? = e.apiName?) (es : List Element) :
    packageOf? (link es) d = (packageOf? es e).map (linkElement es) := by
  rw [packageOf?_eq_getLast?, packageOf?_eq_getLast?, packages_congr h, packages_link,
    List.getLast?_map]

theorem linkField_linkField (es : List Element) (f : Field Element) :
    linkField (link es) (linkField es f) = linkField es f := by
  have hpackage := packageOf?_link (apiName?_linkField es f) es
  cases h : packageOf? es (.field f) with
  | none =>
    rw [h] at hpackage
    exact linkField_of_none hpackage
  | some p =>
    rw [h] at hpackage
    rw [linkField_of_package hpackage, linkField_of_package h, extend_extend (id_linkElement es p)]

theorem linkElement_linkElement (es : List Element) (e : Element) :
    linkElement (link es) (linkElement es e) = linkElement es e := by
  have hpackage := packageOf?_link (apiName?_linkElement es e) es
  cases h : packageOf? es e with
  | none =>
    rw [h] at hpackage
    rw [linkElement_of_none hpackage, linkElement_of_none h, Element.mapFields_mapFields]
    simp only [Function.comp_def, linkField_linkField]
  | some p =>
    rw [h] at hpackage
    rw [linkElement_of_package hpackage, linkElement_of_package h,
      Element.annotations_setAnnotations, extend_extend (id_linkElement es p),
      Element.setAnnotations_setAnnotations]

theorem link_link (es : List Element) : link (link es) = link es := by
  have hmap : link (link es) = es.map (linkElement (link es) ∘ linkElement es) := List.map_map
  rw [hmap, link]
  exact List.map_congr_left fun e _ => linkElement_linkElement es e

/-! ### What linking adds -/

def IsOn (target : ElementId) (d : Value Element) : Prop :=
  ∃ (entries : Values Element) (r : Reference Element), d = .mapping entries ∧
    entries.lookup referenceKey = some (.reference r) ∧ r.target = target

theorem dependsOn_eq_true_iff {target : ElementId} {v : Value Element} :
    dependsOn target v = true ↔ IsOn target v := by
  constructor
  · intro h
    obtain ⟨r, hr, htarget⟩ := (Option.any_eq_true _ _).1 h
    obtain ⟨w, hw, hreference⟩ := Option.bind_eq_some_iff.1 hr
    obtain ⟨entries, hentries, hlookup⟩ := Option.bind_eq_some_iff.1 hw
    refine ⟨entries, r, Value.eq_mapping_of_mapping? hentries, ?_, of_decide_eq_true htarget⟩
    cases w with
    | reference q => rw [hlookup, Option.some.inj hreference]
    | _ => cases hreference
  · rintro ⟨entries, r, rfl, hlookup, htarget⟩
    simp [dependsOn, Value.mapping?, hlookup, Value.reference?, htarget]

/-- Annotations before and after their owner was linked to one of these packages. -/
structure Extends (packages : List Element) (before after : Values Element) : Prop where
  /-- Every key keeps its place. -/
  keys : Assoc.keys before <+: Assoc.keys after
  /-- What is no list of dependencies stays, and so does all that no package owns. -/
  stays : ¬ HasRoom before ∨ packages = [] → after = before
  /-- The dependencies that were there stay in front. One on a package is added, if there was none
  on it. -/
  linked : HasRoom before → packages ≠ [] → ∃ p ∈ packages, ∃ new,
    after.lookup AnnotationKey.generatedDependencies =
      some (.sequence (dependencies before ++ new)) ∧
    (∃ d ∈ dependencies before ++ new, IsOn p.id d) ∧
    (new = [] ∨ new = [dependency p] ∧ ∀ d ∈ dependencies before, ¬ IsOn p.id d)

theorem Extends.refl (as : Values Element) : Extends [] as as :=
  ⟨List.prefix_refl _, fun _ => rfl, fun _ h => absurd rfl h⟩

theorem lookup_of_mem_dependencies {as : Values Element} {d : Value Element}
    (h : d ∈ dependencies as) : as.lookup AnnotationKey.generatedDependencies =
      some (.sequence (dependencies as)) := by
  rw [dependencies] at h ⊢
  cases hds : (as.lookup AnnotationKey.generatedDependencies).bind Value.sequence? with
  | none => simp [hds] at h
  | some ds =>
    obtain ⟨v, hv, hsequence⟩ := Option.bind_eq_some_iff.1 hds
    rw [hv, Value.eq_sequence_of_sequence? hsequence]
    rfl

theorem extends_extend {es : List Element} {e p : Element} (h : packageOf? es e = some p)
    (as : Values Element) : Extends (packages es e) as (extend p as) := by
  rw [packageOf?_eq_getLast?] at h
  have hmem := List.mem_of_getLast? h
  have hne : packages es e ≠ [] := List.ne_nil_of_mem hmem
  rcases extend_cases p as with ⟨hstay, heq⟩ | ⟨hroom, hnone, heq⟩
  · rw [heq]
    refine ⟨List.prefix_refl _, fun _ => rfl, fun hroom _ => ⟨p, hmem, [], ?_⟩⟩
    obtain ⟨d, hd, hon⟩ := hstay.resolve_left (not_not.2 hroom)
    rw [List.append_nil]
    exact ⟨lookup_of_mem_dependencies hd, ⟨d, hd, dependsOn_eq_true_iff.1 hon⟩, .inl rfl⟩
  · rw [heq, withDependencies]
    refine ⟨Assoc.keys_prefix_keys_put _ _ _, ?_, fun _ _ => ⟨p, hmem, [dependency p], ?_⟩⟩
    · rintro (hno | hnil)
      · exact absurd hroom hno
      · exact absurd hnil hne
    · have hadded : IsOn p.id (dependency p) := dependsOn_eq_true_iff.1 (dependsOn_dependency rfl)
      refine ⟨by rw [Assoc.lookup_put, if_pos rfl], ⟨dependency p, by simp, hadded⟩, .inr ⟨rfl, ?_⟩⟩
      intro d hd hon
      rw [← dependsOn_eq_true_iff, hnone d hd] at hon
      cases hon

theorem packages_eq_nil {es : List Element} {e : Element} (h : packageOf? es e = none) :
    packages es e = [] := by
  rw [packageOf?_eq_getLast?] at h
  exact List.getLast?_eq_none_iff.1 h

/-- The packages that a field may be linked to: those that own it, unless its type is owned. -/
def fieldPackages (es : List Element) (e f : Element) : List Element :=
  if (packages es e).isEmpty then packages es f else []

theorem extends_linkField (es : List Element) (f : Field Element) :
    Extends (packages es (.field f)) f.annotations (linkField es f).annotations := by
  cases h : packageOf? es (.field f) with
  | none =>
    rw [linkField_of_none h, packages_eq_nil h]
    exact .refl _
  | some p =>
    rw [linkField_of_package h]
    exact extends_extend h f.annotations

theorem extends_linkElement (es : List Element) (e : Element) :
    Extends (packages es e) e.annotations (linkElement es e).annotations := by
  cases h : packageOf? es e with
  | none =>
    rw [linkElement_of_none h, packages_eq_nil h]
    cases e <;> exact .refl _
  | some p =>
    rw [linkElement_of_package h, Element.annotations_setAnnotations]
    exact extends_extend h e.annotations

theorem extends_children (es : List Element) (e : Element) :
    List.Forall₂ (fun f f' => Extends (fieldPackages es e f) f.annotations f'.annotations)
      e.children (linkElement es e).children := by
  cases h : packageOf? es e with
  | some p =>
    have hchildren : (linkElement es e).children = e.children := by
      rw [linkElement_of_package h]
      cases e <;> rfl
    have hne : packages es e ≠ [] := by
      rw [packageOf?_eq_getLast?] at h
      exact List.ne_nil_of_mem (List.mem_of_getLast? h)
    rw [hchildren, List.forall₂_same]
    intro f _
    rw [fieldPackages, if_neg (by simpa using hne)]
    exact .refl _
  | none =>
    rw [linkElement_of_none h]
    cases e with
    | objectType t =>
      rw [Element.mapFields, Element.children, Element.children, List.forall₂_map_left_iff,
        List.forall₂_map_right_iff, List.forall₂_map_right_iff, List.forall₂_same]
      intro f _
      rw [fieldPackages, packages_eq_nil h]
      exact extends_linkField es f
    | field f => exact .nil
    | inst i => exact .nil

end PackageDependencies

def Field.withoutDependencies (f : Field Element) : Field Element :=
  { f with annotations := Assoc.remove f.annotations AnnotationKey.generatedDependencies }

def Element.withoutDependencies (e : Element) : Element :=
  (e.setAnnotations (Assoc.remove e.annotations AnnotationKey.generatedDependencies)).mapFields
    Field.withoutDependencies

namespace PackageDependencies

theorem remove_extend (p : Element) (as : Values Element) :
    Assoc.remove (extend p as) AnnotationKey.generatedDependencies =
      Assoc.remove as AnnotationKey.generatedDependencies := by
  rcases extend_cases p as with ⟨-, heq⟩ | ⟨-, -, heq⟩ <;> rw [heq]
  exact Assoc.remove_put _ _ _

theorem withoutDependencies_linkField (es : List Element) (f : Field Element) :
    (linkField es f).withoutDependencies = f.withoutDependencies := by
  cases h : packageOf? es (.field f) with
  | none => rw [linkField_of_none h]
  | some p =>
    rw [linkField_of_package h, Field.withoutDependencies, remove_extend]
    rfl

theorem withoutDependencies_linkElement (es : List Element) (e : Element) :
    (linkElement es e).withoutDependencies = e.withoutDependencies := by
  cases h : packageOf? es e with
  | some p =>
    rw [linkElement_of_package h, Element.withoutDependencies, Element.annotations_setAnnotations,
      Element.setAnnotations_setAnnotations, remove_extend, ← Element.withoutDependencies]
  | none =>
    rw [linkElement_of_none h]
    cases e with
    | objectType t =>
      have hfields : (t.fields.map (linkField es)).map Field.withoutDependencies =
          t.fields.map Field.withoutDependencies := by
        rw [List.map_map]
        exact List.map_congr_left fun f _ => withoutDependencies_linkField es f
      simp only [Element.withoutDependencies, Element.mapFields, Element.setAnnotations,
        Element.annotations, hfields]
    | field f => rfl
    | inst i => rfl

/-- Linking a fetched list to its installed packages adds a dependency to each element that a
package owns, behind those that were there and only if none of them is on the package, and to the
fields of types that no package owns. Nothing else changes, and a second run finds nothing to do. -/
theorem onFetch_links_packages {σ : Type} (client : Client σ) (context : FilterContext)
    (es : List Element) (s : Session σ) :
    let step := (Filter.onFetch client context es .packageDependencies s).1
    step.result = .ok [] ∧
    (∀ s', (Filter.onFetch client context step.left .packageDependencies s').1.left = step.left) ∧
    step.left.map Element.withoutDependencies = es.map Element.withoutDependencies ∧
    List.Forall₂ (fun e e' =>
      Extends (packages es e) e.annotations e'.annotations ∧
      List.Forall₂ (fun f f' => Extends (fieldPackages es e f) f.annotations f'.annotations)
        e.children e'.children) es step.left := by
  refine ⟨rfl, fun _ => link_link es, ?_, ?_⟩
  · change (es.map (linkElement es)).map _ = _
    rw [List.map_map]
    exact List.map_congr_left fun e _ => withoutDependencies_linkElement es e
  · change List.Forall₂ _ es (es.map (linkElement es))
    rw [List.forall₂_map_right_iff, List.forall₂_same]
    exact fun e _ => ⟨extends_linkElement es e, extends_children es e⟩

example :
    let sbqq : Element := .inst
      { name := "SBQQ"
        type := { id := .type "sf" "InstalledPackage" }
        value := [(fullNameField, .text "SBQQ")] }
    let renewal : Element := .inst
      { name := "Renewal"
        type := { id := .type "sf" "Flow" }
        value := [(fullNameField, .text "SBQQ__Renewal")] }
    (link [sbqq, renewal]).map (fun e => (dependencies e.annotations).length) = [0, 1] := by
  decide +kernel

end PackageDependencies

end ElementSync
