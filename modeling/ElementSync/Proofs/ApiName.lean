import ElementSync.Element.ApiName
import Mathlib.Data.List.Infix
import Mathlib.Tactic.MkIffOfInductiveProp

/-!
# Namespaces in API names

An API name is put together from the namespace of a package, a name and a suffix, with two
underscores between them, and a field has its type and a dot in front. Taking off the suffix and
looking for underscores that are left tells whether there is a namespace. Only a name that is itself
written like a suffix hides the namespace in front of it.
-/

namespace ElementSync

namespace Text
variable {marker suffix cs ds : List Char} {c : Char}

theorem contains_iff_isInfix : contains marker cs = true ↔ marker <:+: cs := by
  induction cs with
  | nil => simp [contains]
  | cons c cs ih =>
    rw [contains, Bool.or_eq_true, ih, List.isPrefixOf_iff_prefix, List.infix_cons_iff]

theorem before_eq_self (h : ¬ marker <:+: cs) : before marker cs = cs := by
  induction cs with
  | nil => rfl
  | cons c cs ih =>
    rw [List.infix_cons_iff, not_or, ← List.isPrefixOf_iff_prefix] at h
    rw [before, if_neg h.1, ih h.2]

/-- A marker is found where it stands, unless one begins before it. -/
theorem before_append (h : ¬ marker <:+: cs ++ marker.dropLast) (ds : List Char) :
    before marker (cs ++ marker ++ ds) = cs := by
  induction cs with
  | nil =>
    cases marker with
    | nil => exact absurd List.nil_infix h
    | cons m ms =>
      have hfirst : (m :: ms).isPrefixOf (m :: (ms ++ ds)) = true :=
        List.isPrefixOf_iff_prefix.2 (List.prefix_append (m :: ms) ds)
      rw [List.nil_append, List.cons_append, before, if_pos hfirst]
  | cons c cs ih =>
    rw [List.cons_append, List.infix_cons_iff, not_or] at h
    have hlater : ¬ marker.isPrefixOf (c :: (cs ++ marker ++ ds)) = true := by
      intro hprefix
      have hearly : c :: (cs ++ marker.dropLast) <+: c :: (cs ++ marker ++ ds) := by
        rw [List.append_assoc, List.prefix_cons_inj, List.prefix_append_right_inj]
        exact (List.dropLast_prefix marker).trans (List.prefix_append marker ds)
      refine h.1 (List.prefix_of_prefix_length_le (List.isPrefixOf_iff_prefix.1 hprefix) hearly ?_)
      simp only [List.length_cons, List.length_append, List.length_dropLast]
      omega
    rw [List.cons_append, List.cons_append, before, if_neg hlater, ih h.2]

theorem stripSuffix?_eq_some_iff : stripSuffix? suffix cs = some ds ↔ ds ++ suffix = cs := by
  rw [stripSuffix?]
  constructor
  · intro h
    split at h
    case isTrue hsuffix =>
      rw [← Option.some.inj h]
      exact List.suffix_iff_eq_append.1 (List.isSuffixOf_iff_suffix.1 hsuffix)
    case isFalse => cases h
  · rintro rfl
    rw [if_pos (List.isSuffixOf_iff_suffix.2 (List.suffix_append ds suffix))]
    simp

theorem afterLast?_eq_none (h : c ∉ cs) : afterLast? [c] cs = none := by
  induction cs with
  | nil => rfl
  | cons d cs ih =>
    rw [List.mem_cons, not_or] at h
    simp [afterLast?, ih h.2, h.1]

theorem afterLast?_append (h : c ∉ ds) (cs : List Char) :
    afterLast? [c] (cs ++ c :: ds) = some ds := by
  induction cs with
  | nil => simp [afterLast?, afterLast?_eq_none h]
  | cons d cs ih => rw [List.cons_append, afterLast?, ih]

/-- What stands before the last of a character is decided by the text. -/
theorem append_cons_inj {cs' ds' : List Char} (hds : c ∉ ds) (hds' : c ∉ ds')
    (h : cs ++ c :: ds = cs' ++ c :: ds') : cs = cs' ∧ ds = ds' := by
  have hlast := afterLast?_append hds cs
  rw [h, afterLast?_append hds' cs'] at hlast
  obtain rfl := Option.some.inj hlast
  exact ⟨List.append_cancel_right h, rfl⟩

end Text

/-- A name that is not put together from others. It has no underscores at its ends, which would run
into those that part it from the next name. -/
@[mk_iff]
structure IsSegment (s : String) : Prop where
  ne_empty : s ≠ ""
  no_dot : '.' ∉ s.toList
  no_dash : '-' ∉ s.toList
  no_mark : ¬ Element.namespaceMark <:+: s.toList
  head?_ne : s.toList.head? ≠ some '_'
  getLast?_ne : s.toList.getLast? ≠ some '_'

instance (s : String) : Decidable (IsSegment s) := decidable_of_iff' _ (isSegment_iff s)

namespace Element

/-- Nothing that a name is cut at stands in a suffix. -/
theorem notMem_customSuffix {s : String} (hs : s ∈ customSuffixes) :
    '_' ∉ s.toList ∧ '-' ∉ s.toList ∧ '.' ∉ s.toList := by
  revert s
  decide

/-- Two texts that end in a suffix are one when they are one with their suffixes. -/
theorem eq_of_append_mark_eq {s t : String} (hs : s ∈ customSuffixes) (ht : t ∈ customSuffixes)
    {cs ds : List Char}
    (h : cs ++ namespaceMark ++ s.toList = ds ++ namespaceMark ++ t.toList) : cs = ds := by
  have hlast : (cs ++ ['_']) ++ '_' :: s.toList = (ds ++ ['_']) ++ '_' :: t.toList := by
    simpa [namespaceMark] using h
  have hstem := (Text.append_cons_inj (notMem_customSuffix hs).1 (notMem_customSuffix ht).1 hlast).1
  exact List.append_cancel_right hstem

theorem stripCustomSuffix_append {s : String} (hs : s ∈ customSuffixes) (cs : List Char) :
    stripCustomSuffix (cs ++ namespaceMark ++ s.toList) = cs := by
  rw [stripCustomSuffix]
  cases hfind : customSuffixes.findSome? fun t =>
      Text.stripSuffix? (namespaceMark ++ t.toList) (cs ++ namespaceMark ++ s.toList) with
  | none =>
    have hnone := List.findSome?_eq_none_iff.1 hfind s hs
    rw [Text.stripSuffix?_eq_some_iff.2 (List.append_assoc cs _ _).symm] at hnone
    cases hnone
  | some ds =>
    obtain ⟨t, ht, hstrip⟩ := List.exists_of_findSome?_eq_some hfind
    have heq := Text.stripSuffix?_eq_some_iff.1 hstrip
    rw [← List.append_assoc] at heq
    exact eq_of_append_mark_eq ht hs heq

theorem stripCustomSuffix_eq_self {cs : List Char}
    (h : ∀ s ∈ customSuffixes, ¬ namespaceMark ++ s.toList <:+ cs) : stripCustomSuffix cs = cs := by
  have hnone : (customSuffixes.findSome? fun s =>
      Text.stripSuffix? (namespaceMark ++ s.toList) cs) = none := by
    rw [List.findSome?_eq_none_iff]
    intro s hs
    rw [Text.stripSuffix?, if_neg (mt List.isSuffixOf_iff_suffix.1 (h s hs))]
  rw [stripCustomSuffix, hnone, Option.getD_none]

theorem suffix_mark_append_iff {cs ds : List Char} :
    cs <:+ namespaceMark ++ ds ↔ cs = namespaceMark ++ ds ∨ cs = '_' :: ds ∨ cs <:+ ds := by
  change cs <:+ '_' :: '_' :: ds ↔ _
  rw [List.suffix_cons_iff, List.suffix_cons_iff]
  rfl

end Element

namespace IsSegment
variable {s b : String}
open Element

theorem before_mark (hb : IsSegment b) {cs : List Char}
    (h : b.toList ++ namespaceMark <+: cs) : Text.before namespaceMark cs = b.toList := by
  obtain ⟨ds, rfl⟩ := h
  apply Text.before_append
  intro hmark
  rcases List.infix_concat_iff.1 hmark with hend | hinner
  · have hlast : ['_'] ++ ['_'] <:+ b.toList ++ ['_'] := hend
    rw [List.suffix_append_inj_of_length_eq rfl] at hlast
    exact hb.getLast?_ne (List.singleton_suffix_iff_getLast?_eq_some.1 hlast.1)
  · exact hb.no_mark hinner

theorem stripCustomSuffix_eq_self (hb : IsSegment b) : stripCustomSuffix b.toList = b.toList := by
  apply Element.stripCustomSuffix_eq_self
  intro s _ hsuffix
  exact hb.no_mark ((List.prefix_append namespaceMark s.toList).isInfix.trans hsuffix.isInfix)

/-- Behind two underscores a name ends in a suffix only if it is the suffix. -/
theorem eq_of_suffix (hb : IsSegment b) (hs : s ∈ customSuffixes) {cs : List Char}
    (hsuffix : namespaceMark ++ s.toList <:+ cs ++ namespaceMark ++ b.toList) : b = s := by
  apply String.toList_injective
  have hend : namespaceMark ++ b.toList <:+ cs ++ namespaceMark ++ b.toList :=
    List.append_assoc cs _ _ ▸ List.suffix_append cs _
  rcases List.suffix_or_suffix_of_suffix hsuffix hend with hshort | hlong
  · rcases suffix_mark_append_iff.1 hshort with heq | heq | hinner
    · exact (List.append_cancel_left heq).symm
    · have hbegin : '_' :: s.toList = b.toList := List.tail_eq_of_cons_eq heq
      exact absurd (hbegin ▸ rfl) hb.head?_ne
    · exact absurd ((List.prefix_append namespaceMark s.toList).isInfix.trans hinner.isInfix)
        hb.no_mark
  · have hplain : '_' ∉ s.toList := (notMem_customSuffix hs).1
    rcases suffix_mark_append_iff.1 hlong with heq | heq | hinner
    · exact List.append_cancel_left heq
    · have hbegin : '_' :: b.toList = s.toList := List.tail_eq_of_cons_eq heq
      exact absurd (hbegin ▸ List.mem_cons_self) hplain
    · exact absurd (hinner.mem List.mem_cons_self) hplain

end IsSegment

structure ComposedName where
  package? : Option String
  base : String
  suffix? : Option String
  isSegment_package : ∀ ns ∈ package?, IsSegment ns
  isSegment_base : IsSegment base
  suffix_mem : ∀ s ∈ suffix?, s ∈ Element.customSuffixes

namespace ComposedName
open Element

def stem (n : ComposedName) : String :=
  match n.package? with
  | some ns => ns ++ "__" ++ n.base
  | none => n.base

def text (n : ComposedName) : String :=
  match n.suffix? with
  | some s => n.stem ++ "__" ++ s
  | none => n.stem

def textIn (n : ComposedName) : Option String → String
  | some owner => owner ++ "." ++ n.text
  | none => n.text

def LooksSuffixed (n : ComposedName) : Prop := n.suffix? = none ∧ n.base ∈ customSuffixes

variable {n : ComposedName} {ns s : String}

theorem toList_stem_of_some (h : n.package? = some ns) :
    n.stem.toList = ns.toList ++ namespaceMark ++ n.base.toList := by
  simp [stem, h, namespaceMark]

theorem stem_of_none (h : n.package? = none) : n.stem = n.base := by
  rw [stem, h]

theorem toList_text_of_some (h : n.suffix? = some s) :
    n.text.toList = n.stem.toList ++ namespaceMark ++ s.toList := by
  simp [text, h, namespaceMark]

theorem text_of_none (h : n.suffix? = none) : n.text = n.stem := by
  rw [text, h]

variable (n)

theorem stem_prefix_text : n.stem.toList <+: n.text.toList := by
  cases hs : n.suffix? with
  | none => rw [text_of_none hs]
  | some s =>
    rw [toList_text_of_some hs, List.append_assoc]
    exact List.prefix_append _ _

theorem notMem_text {c : Char} (hmark : c ≠ '_') (hsegment : ∀ s, IsSegment s → c ∉ s.toList)
    (hsuffix : ∀ s ∈ customSuffixes, c ∉ s.toList) : c ∉ n.text.toList := by
  have hbase : c ∉ n.base.toList := hsegment _ n.isSegment_base
  have hstem : c ∉ n.stem.toList := by
    cases hp : n.package? with
    | none => rwa [stem_of_none hp]
    | some ns =>
      have hns : c ∉ ns.toList := hsegment ns (n.isSegment_package ns hp)
      simp [toList_stem_of_some hp, namespaceMark, hmark, hns, hbase]
  cases hs : n.suffix? with
  | none => rwa [text_of_none hs]
  | some s =>
    have hends : c ∉ s.toList := hsuffix s (n.suffix_mem s hs)
    simp [toList_text_of_some hs, namespaceMark, hmark, hstem, hends]

theorem dot_notMem_text : '.' ∉ n.text.toList :=
  n.notMem_text (by decide) (fun _ h => h.no_dot) fun _ h => (notMem_customSuffix h).2.2

theorem dash_notMem_text : '-' ∉ n.text.toList :=
  n.notMem_text (by decide) (fun _ h => h.no_dash) fun _ h => (notMem_customSuffix h).2.1

/-! ### Cutting the name -/

theorem contains_stem : Text.contains namespaceMark n.stem.toList = n.package?.isSome := by
  cases hp : n.package? with
  | none =>
    rw [stem_of_none hp, Option.isSome_none, ← Bool.not_eq_true, Text.contains_iff_isInfix]
    exact n.isSegment_base.no_mark
  | some ns =>
    rw [toList_stem_of_some hp, Option.isSome_some, Text.contains_iff_isInfix]
    exact ⟨ns.toList, n.base.toList, rfl⟩

theorem stripCustomSuffix_text (h : ¬ n.LooksSuffixed) :
    stripCustomSuffix n.text.toList = n.stem.toList := by
  cases hs : n.suffix? with
  | some s => rw [toList_text_of_some hs, stripCustomSuffix_append (n.suffix_mem s hs)]
  | none =>
    rw [text_of_none hs]
    cases hp : n.package? with
    | none => rw [stem_of_none hp, n.isSegment_base.stripCustomSuffix_eq_self]
    | some ns =>
      apply stripCustomSuffix_eq_self
      intro s hmem hsuffix
      rw [toList_stem_of_some hp] at hsuffix
      exact h ⟨hs, n.isSegment_base.eq_of_suffix hmem hsuffix ▸ hmem⟩

theorem not_contains_of_looksSuffixed (h : n.LooksSuffixed) :
    Text.contains namespaceMark (stripCustomSuffix n.text.toList) = false := by
  obtain ⟨hs, hbase⟩ := h
  rw [text_of_none hs]
  cases hp : n.package? with
  | none =>
    rw [stem_of_none hp, n.isSegment_base.stripCustomSuffix_eq_self, ← stem_of_none hp,
      contains_stem, hp, Option.isSome_none]
  | some ns =>
    rw [toList_stem_of_some hp, stripCustomSuffix_append hbase, ← Bool.not_eq_true,
      Text.contains_iff_isInfix]
    exact (n.isSegment_package ns hp).no_mark

theorem before_mark_text :
    Text.before namespaceMark n.text.toList = (n.package?.getD n.base).toList := by
  cases hp : n.package? with
  | some ns =>
    have hbegin : ns.toList ++ namespaceMark <+: n.stem.toList := by
      rw [toList_stem_of_some hp]
      exact List.prefix_append _ _
    exact (n.isSegment_package ns hp).before_mark (hbegin.trans n.stem_prefix_text)
  | none =>
    cases hs : n.suffix? with
    | none =>
      rw [text_of_none hs, stem_of_none hp, Text.before_eq_self n.isSegment_base.no_mark,
        Option.getD_none]
    | some s =>
      apply n.isSegment_base.before_mark
      rw [toList_text_of_some hs, stem_of_none hp]
      exact List.prefix_append _ _

variable {n} {e : Element} {owner? : Option String}

theorem relativeName?_eq (he : e.apiName? = some (n.textIn owner?)) :
    e.relativeName? = some n.text.toList := by
  rw [relativeName?, he, Option.map_some, Option.some_inj]
  cases owner? with
  | none => rw [textIn, Text.afterLast?_eq_none n.dot_notMem_text, Option.getD_none]
  | some owner =>
    have htext : (n.textIn (some owner)).toList = owner.toList ++ '.' :: n.text.toList := by
      simp [textIn]
    rw [htext, Text.afterLast?_append n.dot_notMem_text, Option.getD_some]

end ComposedName

namespace Element

/-- The namespace in a composed name is recognized, unless the name behind it is written like a
suffix and has none itself; and nothing else is taken for a namespace. -/
theorem namespace_of_composed {e : Element} (n : ComposedName) (owner? : Option String)
    (he : e.apiName? = some (n.textIn owner?)) :
    (e.hasNamespace ↔ n.package?.isSome ∧ ¬ n.LooksSuffixed) ∧
      e.namespaceName = n.package?.getD n.base := by
  have hname := ComposedName.relativeName?_eq he
  have hdash : ¬ ['-'] <:+: n.text.toList := by
    rw [List.singleton_infix_iff]
    exact n.dash_notMem_text
  constructor
  · rw [hasNamespace, hname, Option.any_some, Text.before_eq_self hdash]
    by_cases h : n.LooksSuffixed
    · simp [n.not_contains_of_looksSuffixed h, h]
    · simp [n.stripCustomSuffix_text h, n.contains_stem, h]
  · rw [namespaceName, hname, Option.map_some, Option.getD_some, n.before_mark_text,
      String.ofList_toList]

/-- A type that is named like a suffix. -/
example : (Element.objectType { id := .type "salesforce" "ns__c" }).hasNamespace = false := by
  decide

/-- Namespace and name have underscores inside, and the suffix begins like another one. -/
def rateName : ComposedName where
  package? := some "pay_plan"
  base := "Base_Rate"
  suffix? := some "xo"
  isSegment_package := by decide
  isSegment_base := by decide
  suffix_mem := by decide

def rateField : Field Element where
  parent := .type "salesforce" "Account"
  name := "pay_plan__Base_Rate__xo"
  type := .number

theorem namespace_of_composed_rate :
    let e := Element.field rateField
    e.apiName? = some (rateName.textIn (some "Account")) ∧ e.hasNamespace ∧
      e.namespaceName = "pay_plan" := by
  intro e
  have he : e.apiName? = some (rateName.textIn (some "Account")) := by decide
  obtain ⟨hiff, hname⟩ := namespace_of_composed rateName (some "Account") he
  have hplain : ¬ rateName.LooksSuffixed := fun h => nomatch h.1
  exact ⟨he, hiff.2 ⟨rfl, hplain⟩, hname⟩

end Element

end ElementSync
