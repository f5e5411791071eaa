import ElementSync.Proofs.Value.LeafPlaces

/-!
# Values written as JSON and read back

Writing fails exactly on the trees that hold a reference or a template. What is written is read
back as the same tree, order of keys and sorts of numbers included. What is read is written again
without its nulls and otherwise as it was.
-/

namespace ElementSync
variable {η : Type}

namespace Json

inductive Within (k : Json) : Json → Prop
  | here : Within k k
  | item {j : Json} {items : List Json} : j ∈ items → Within k j → Within k (.array items)
  | entry {key : String} {j : Json} {entries : List (String × Json)} :
    (key, j) ∈ entries → Within k j → Within k (.object entries)

theorem within_array_iff {k : Json} {items : List Json} :
    Within k (.array items) ↔ k = .array items ∨ ∃ j ∈ items, Within k j := by
  constructor
  · rintro (_ | ⟨hj, hk⟩)
    · exact .inl rfl
    · exact .inr ⟨_, hj, hk⟩
  · rintro (rfl | ⟨j, hj, hk⟩)
    · exact .here
    · exact .item hj hk

theorem within_object_iff {k : Json} {entries : List (String × Json)} :
    Within k (.object entries) ↔ k = .object entries ∨ ∃ e ∈ entries, Within k e.2 := by
  constructor
  · rintro (_ | _ | ⟨he, hk⟩)
    · exact .inl rfl
    · exact .inr ⟨_, he, hk⟩
  · rintro (rfl | ⟨e, he, hk⟩)
    · exact .here
    · exact .entry he hk

/-- Nothing stands in a value that has no parts. -/
theorem within_iff_eq {k j : Json} (hitems : ∀ items, j ≠ .array items)
    (hentries : ∀ entries, j ≠ .object entries) : Within k j ↔ k = j := by
  constructor
  · rintro (_ | _ | _)
    · rfl
    · exact absurd rfl (hitems _)
    · exact absurd rfl (hentries _)
  · rintro rfl
    exact .here

def HasShortIntegers (j : Json) : Prop :=
  ∀ n, Within (.int n) j → -(Nat.pow 2 63 : Int) ≤ n ∧ n < Nat.pow 2 63

/-- Every float is finite. JSON has no other. -/
def HasFiniteFloats (j : Json) : Prop := ∀ x, Within (.float x) j → x.isFinite

def isNull : Json → Bool
  | .null => true
  | _ => false

theorem isNull_iff {j : Json} : j.isNull ↔ j = .null := by
  cases j <;> simp [isNull]

mutual
def withoutNulls : Json → Json
  | .array items => .array (itemsWithoutNulls items)
  | .object entries => .object (entriesWithoutNulls entries)
  | j => j

def itemsWithoutNulls : List Json → List Json
  | [] => []
  | j :: items =>
    if j.isNull then itemsWithoutNulls items else withoutNulls j :: itemsWithoutNulls items

def entriesWithoutNulls : List (String × Json) → List (String × Json)
  | [] => []
  | (k, j) :: entries =>
    if j.isNull then entriesWithoutNulls entries
    else (k, withoutNulls j) :: entriesWithoutNulls entries
end

end Json

namespace Scalar

def IsFinite (s : Scalar) : Prop := ∀ x, s = .float x → x.isFinite

theorem ofInt_toInt (n : Int64) : ofInt n.toInt = .int n := by
  rw [ofInt, if_pos ⟨n.le_toInt, n.toInt_lt⟩, Int64.ofInt_toInt]

theorem toJson_ofInt {n : Int} (h : -(Nat.pow 2 63 : Int) ≤ n ∧ n < Nat.pow 2 63) :
    (ofInt n).toJson = .int n := by
  rw [ofInt, if_pos h, toJson, Int64.toInt_ofInt_of_le h.1 h.2]

theorem ofJson?_toJson {s : Scalar} (h : s.IsFinite) :
    (Value.ofJson? s.toJson : Option (Value η)) = some (.scalar s) := by
  cases s with
  | int n => rw [toJson, Value.ofJson?, ofInt_toInt]
  | float x => rw [toJson, if_pos (h x rfl), Value.ofJson?]
  | _ => rw [toJson, Value.ofJson?]

end Scalar

def Leaf.IsWritable (l : Leaf η) : Prop := ∃ s : Scalar, l = .scalar s ∧ s.IsFinite

namespace Value

theorem toJson_mapping (es : Values η) :
    (Value.mapping es).toJson = (toEntries es).map Json.object := by
  rw [toJson]
  cases toEntries es <;> rfl

theorem toJson_sequence (vs : List (Value η)) :
    (Value.sequence vs).toJson = (toItems vs).map Json.array := by
  rw [toJson]
  cases toItems vs <;> rfl

theorem toItems_cons_of_ok {v : Value η} {vs : List (Value η)} {j : Json} {items : List Json}
    (hv : v.toJson = .ok j) (hvs : toItems vs = .ok items) :
    toItems (v :: vs) = .ok (j :: items) := by
  rw [toItems, hv, hvs]
  rfl

theorem toEntries_cons_of_ok {k : String} {v : Value η} {es : Values η} {j : Json}
    {entries : Record} (hv : v.toJson = .ok j) (hes : toEntries es = .ok entries) :
    toEntries ((k, v) :: es) = .ok ((k, j) :: entries) := by
  rw [toEntries, hv, hes]
  rfl

mutual
theorem exists_toJson (path : Path) (v : Value η) (h : ∀ l ∈ v.leaves path, l.2.IsWritable) :
    ∃ j, v.toJson = .ok j ∧ ofJson? j = some v := by
  cases v with
  | scalar s =>
    obtain ⟨t, ht, hfinite⟩ := h (path, .scalar s) (by rw [leaves]; exact List.mem_cons_self)
    cases ht
    exact ⟨s.toJson, by rw [toJson], Scalar.ofJson?_toJson hfinite⟩
  | reference r =>
    obtain ⟨t, ht, -⟩ := h (path, .reference r) (by rw [leaves]; exact List.mem_cons_self)
    cases ht
  | template t =>
    obtain ⟨s, hs, -⟩ := h (path, .template t) (by rw [leaves]; exact List.mem_cons_self)
    cases hs
  | mapping es =>
    rw [leaves] at h
    obtain ⟨entries, hwritten, hread⟩ := exists_toEntries path es h
    exact ⟨.object entries, by rw [toJson_mapping, hwritten]; rfl, by rw [ofJson?, hread]⟩
  | sequence vs =>
    rw [leaves] at h
    obtain ⟨items, hwritten, hread⟩ := exists_toItems path 0 vs h
    exact ⟨.array items, by rw [toJson_sequence, hwritten]; rfl, by rw [ofJson?, hread]⟩

theorem exists_toEntries (path : Path) (es : List (String × Value η))
    (h : ∀ l ∈ entryLeaves path es, l.2.IsWritable) :
    ∃ entries, toEntries es = .ok entries ∧ ofEntries entries = es := by
  cases es with
  | nil => exact ⟨[], by rw [toEntries]; rfl, by rw [ofEntries]⟩
  | cons e es =>
    rw [entryLeaves, List.forall_mem_append] at h
    obtain ⟨j, hwritten, hread⟩ := exists_toJson (path ++ [e.1]) e.2 h.1
    obtain ⟨entries, hrest, hreadRest⟩ := exists_toEntries path es h.2
    refine ⟨(e.1, j) :: entries, toEntries_cons_of_ok hwritten hrest, ?_⟩
    rw [ofEntries, hread, Option.elim_some, hreadRest]

theorem exists_toItems (path : Path) (i : UInt64) (vs : List (Value η))
    (h : ∀ l ∈ itemLeaves path i vs, l.2.IsWritable) :
    ∃ items, toItems vs = .ok items ∧ ofItems items = vs := by
  cases vs with
  | nil => exact ⟨[], by rw [toItems]; rfl, by rw [ofItems]⟩
  | cons v vs =>
    rw [itemLeaves, List.forall_mem_append] at h
    obtain ⟨j, hwritten, hread⟩ := exists_toJson (path ++ [toString i]) v h.1
    obtain ⟨items, hrest, hreadRest⟩ := exists_toItems path (i + 1) vs h.2
    refine ⟨j :: items, toItems_cons_of_ok hwritten hrest, ?_⟩
    rw [ofItems, hread, Option.elim_some, hreadRest]
end

theorem ofJson?_eq_none_iff {j : Json} : (ofJson? j : Option (Value η)) = none ↔ j = .null := by
  cases j <;> simp [ofJson?]

theorem isNull_iff_ofJson?_eq_none (j : Json) : j.isNull ↔ (ofJson? j : Option (Value η)) = none := by
  rw [Json.isNull_iff, ofJson?_eq_none_iff]

theorem not_isNull_of_ofJson? {j : Json} {v : Value η} (h : ofJson? j = some v) : ¬ j.isNull := by
  rw [isNull_iff_ofJson?_eq_none (η := η), h]
  exact Option.some_ne_none v

end Value

namespace Json

def Fits (j : Json) : Prop := j.HasShortIntegers ∧ j.HasFiniteFloats

theorem Fits.item {items : List Json} (h : (Json.array items).Fits) {j : Json} (hj : j ∈ items) :
    j.Fits :=
  ⟨fun n hn => h.1 n (.item hj hn), fun x hx => h.2 x (.item hj hx)⟩

theorem Fits.entry {entries : List (String × Json)} (h : (Json.object entries).Fits)
    {e : String × Json} (he : e ∈ entries) : e.2.Fits :=
  ⟨fun n hn => h.1 n (.entry he hn), fun x hx => h.2 x (.entry he hx)⟩

end Json

namespace Value

mutual
theorem toJson_of_ofJson? (j : Json) (h : j.Fits) (v : Value η) (hv : ofJson? j = some v) :
    v.toJson = .ok j.withoutNulls := by
  cases j with
  | null =>
    rw [ofJson?] at hv
    cases hv
  | int n =>
    rw [ofJson?] at hv
    cases hv
    rw [toJson, Scalar.toJson_ofInt (h.1 n .here)]
    simp only [Json.withoutNulls]
  | float x =>
    rw [ofJson?] at hv
    cases hv
    rw [toJson, Scalar.toJson, if_pos (h.2 x .here)]
    simp only [Json.withoutNulls]
  | array items =>
    rw [ofJson?] at hv
    cases hv
    rw [toJson_sequence, toItems_ofItems items fun j hj => h.item hj, Json.withoutNulls]
    rfl
  | object entries =>
    rw [ofJson?] at hv
    cases hv
    rw [toJson_mapping, toEntries_ofEntries entries fun e he => h.entry he, Json.withoutNulls]
    rfl
  | _ =>
    rw [ofJson?] at hv
    cases hv
    simp only [toJson, Scalar.toJson, Json.withoutNulls]

theorem toItems_ofItems (items : List Json) (h : ∀ j ∈ items, j.Fits) :
    toItems (ofItems items : List (Value η)) = .ok (Json.itemsWithoutNulls items) := by
  cases items with
  | nil => rw [ofItems, toItems, Json.itemsWithoutNulls]; rfl
  | cons j items =>
    have hrest := toItems_ofItems items fun k hk => h k (List.mem_cons_of_mem j hk)
    rw [ofItems, Json.itemsWithoutNulls]
    cases hj : (ofJson? j : Option (Value η)) with
    | none => rwa [if_pos ((isNull_iff_ofJson?_eq_none j).2 hj)]
    | some v =>
      rw [if_neg (not_isNull_of_ofJson? hj)]
      exact toItems_cons_of_ok (toJson_of_ofJson? j (h j List.mem_cons_self) v hj) hrest

theorem toEntries_ofEntries (entries : List (String × Json)) (h : ∀ e ∈ entries, e.2.Fits) :
    toEntries (ofEntries entries : Values η) = .ok (Json.entriesWithoutNulls entries) := by
  cases entries with
  | nil => rw [ofEntries, toEntries, Json.entriesWithoutNulls]; rfl
  | cons e entries =>
    have hrest := toEntries_ofEntries entries fun f hf => h f (List.mem_cons_of_mem e hf)
    rw [ofEntries, Json.entriesWithoutNulls]
    cases hj : (ofJson? e.2 : Option (Value η)) with
    | none => rwa [if_pos ((isNull_iff_ofJson?_eq_none e.2).2 hj)]
    | some v =>
      rw [if_neg (not_isNull_of_ofJson? hj)]
      exact toEntries_cons_of_ok (toJson_of_ofJson? e.2 (h e List.mem_cons_self) v hj) hrest
end

theorem isOk_toJson_iff_hasLeaf (v : Value η) :
    v.toJson.isOk ↔ ∀ l, v.HasLeaf l → ∃ s, l = .scalar s :=
  (isOk_toJson_iff [] v).trans (forall_hasLeaf_iff [] (P := fun l => ∃ s, l = .scalar s)).symm

theorem exists_error_toJson_iff (v : Value η) : (∃ cause, v.toJson = .error cause) ↔
    (∃ r, v.HasLeaf (.reference r)) ∨ ∃ t, v.HasLeaf (.template t) := by
  have herror : (∃ cause, v.toJson = .error cause) ↔ ¬ v.toJson.isOk := by
    cases v.toJson <;> simp [Except.isOk, Except.toBool]
  rw [herror, isOk_toJson_iff_hasLeaf, Classical.not_forall]
  constructor
  · rintro ⟨l, hl⟩
    obtain ⟨hleaf, hscalar⟩ := Classical.not_imp.1 hl
    cases l with
    | scalar s => exact absurd ⟨s, rfl⟩ hscalar
    | reference r => exact .inl ⟨r, hleaf⟩
    | template t => exact .inr ⟨t, hleaf⟩
  · rintro (⟨r, hr⟩ | ⟨t, ht⟩)
    · exact ⟨.reference r, fun h => nomatch h hr⟩
    · exact ⟨.template t, fun h => nomatch h ht⟩

/-- Writing a tree fails exactly when it holds a reference or a template. Otherwise, if its floats
are finite, reading brings the very tree back. Reading gives nothing for null alone, and any other
JSON value is written again without its nulls. -/
theorem json_round_trip :
    (∀ v : Value η, (∃ cause, v.toJson = .error cause) ↔
      (∃ r, v.HasLeaf (.reference r)) ∨ ∃ t, v.HasLeaf (.template t)) ∧
    (∀ v : Value η, (¬ ∃ r, v.HasLeaf (.reference r)) → (¬ ∃ t, v.HasLeaf (.template t)) →
      (∀ x, v.HasLeaf (.scalar (.float x)) → x.isFinite) →
      ∃ j, v.toJson = .ok j ∧ ofJson? j = some v) ∧
    (∀ j : Json, j.HasShortIntegers → j.HasFiniteFloats →
      ((ofJson? j : Option (Value η)) = none ↔ j = .null) ∧
      (j ≠ .null → ∃ v : Value η, ofJson? j = some v ∧ v.toJson = .ok j.withoutNulls)) := by
  refine ⟨exists_error_toJson_iff, fun v hreferences htemplates hfloats => ?_,
    fun j hintegers hfloats => ⟨ofJson?_eq_none_iff, fun hnull => ?_⟩⟩
  · refine exists_toJson [] v ((forall_hasLeaf_iff []).1 fun l hl => ?_)
    cases l with
    | scalar s => exact ⟨s, rfl, fun x hx => hfloats x (hx ▸ hl)⟩
    | reference r => exact absurd ⟨r, hl⟩ hreferences
    | template t => exact absurd ⟨t, hl⟩ htemplates
  · obtain ⟨v, hv⟩ := Option.ne_none_iff_exists'.1 (mt ofJson?_eq_none_iff.1 hnull)
    exact ⟨v, hv, toJson_of_ofJson? j ⟨hintegers, hfloats⟩ v hv⟩

/-- Rows of numbers and of nothing, and the same rows with a null among them and one beside. -/
theorem json_round_trip_rows :
    let rows : Value Unit :=
      .mapping [("Rows", .sequence [.int 2, .scalar (.float ⟨0⟩), .mapping []])]
    let nulls : Json := .object
      [("Rows", .array [.int 2, .null, .float ⟨0⟩, .object []]), ("Description", .null)]
    (¬ ∃ r, rows.HasLeaf (.reference r)) ∧ (¬ ∃ t, rows.HasLeaf (.template t)) ∧
    (∀ x, rows.HasLeaf (.scalar (.float x)) → x.isFinite) ∧
    (∃ j, rows.toJson = .ok j ∧ ofJson? j = some rows) ∧
    nulls.HasShortIntegers ∧ nulls.HasFiniteFloats ∧ nulls ≠ .null ∧
    ∃ v : Value Unit, ofJson? nulls = some v ∧
      v.toJson = .ok (.object [("Rows", .array [.int 2, .float ⟨0⟩, .object []])]) := by
  intro rows nulls
  have hleaves : ∀ l, rows.HasLeaf l → l.IsWritable := by
    refine (forall_hasLeaf_iff []).2 ?_
    simp [rows, leaves, entryLeaves, itemLeaves, Value.int, Leaf.IsWritable, Scalar.IsFinite]
    decide
  have hreferences : ¬ ∃ r, rows.HasLeaf (.reference r) := fun ⟨r, hr⟩ => nomatch hleaves _ hr
  have htemplates : ¬ ∃ t, rows.HasLeaf (.template t) := fun ⟨t, ht⟩ => nomatch hleaves _ ht
  have hfloats : ∀ x, rows.HasLeaf (.scalar (.float x)) → x.isFinite := by
    intro x hx
    obtain ⟨s, hs, hfinite⟩ := hleaves _ hx
    cases hs
    exact hfinite x rfl
  have hshort : nulls.HasShortIntegers := by
    intro n hn
    obtain rfl : n = 2 := by
      simpa [nulls, Json.within_array_iff, Json.within_object_iff, Json.within_iff_eq] using hn
    decide
  have hfinite : nulls.HasFiniteFloats := by
    intro x hx
    obtain rfl : x = ⟨0⟩ := by
      simpa [nulls, Json.within_array_iff, Json.within_object_iff, Json.within_iff_eq] using hx
    decide
  obtain ⟨-, hwritten, hread⟩ := json_round_trip (η := Unit)
  refine ⟨hreferences, htemplates, hfloats, hwritten rows hreferences htemplates hfloats, hshort,
    hfinite, nofun, ?_⟩
  obtain ⟨v, hv, hj⟩ := (hread nulls hshort hfinite).2 nofun
  exact ⟨v, hv, hj⟩

end Value

end ElementSync
