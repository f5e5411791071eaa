import ElementSync.Proofs.Reference.Precedence
import ElementSync.Proofs.Text.Runs
import ElementSync.Proofs.Value.Places
import ElementSync.Reference.Resolver

/-!
# The field that a reference is in

A resolver reads the field of a reference off the path, as the innermost segment that does not look
like a position. A position in a sequence always looks like one, so only the keys of the mappings
around a reference count. But a key that reads as a number is passed over as well.
-/

namespace ElementSync

namespace Text

theorem isPosition_of_unsigned {s : String} (h : '+' ∉ s.toList) :
    isPosition s = (natOfDigits? s.toList).any fun n => n < Nat.pow 2 64 := by
  unfold isPosition
  split
  next cs hcs => exact absurd (hcs ▸ List.mem_cons_self) h
  next =>
    dsimp only
    cases natOfDigits? s.toList <;> rfl

theorem isPosition_toString (i : UInt64) : isPosition (toString i) = true := by
  have hdigits : (toString i).toList = Nat.toDigits 10 i.toNat := by
    change (toString i.toNat).toList = _
    rw [Nat.toString_eq_ofList_toDigits, String.toList_ofList]
  have hplus : '+' ∉ Nat.toDigits 10 i.toNat := fun h =>
    absurd (isDigit_of_mem_toDigits h) (by decide)
  rw [isPosition_of_unsigned (hdigits ▸ hplus), hdigits,
    natOfDigits?_of_isDigit Nat.toDigits_ne_nil fun _ => isDigit_of_mem_toDigits, number_toDigits]
  exact decide_eq_true i.toNat_lt

end Text

namespace Path

theorem fieldName_eq (p : Path) :
    fieldName p = (p.filter fun s => !Text.isPosition s).getLast?.getD "" := by
  rw [fieldName, ← List.head?_filter, List.filter_reverse, List.head?_reverse]

theorem fieldName_concat (p : Path) (key : String) :
    fieldName (p ++ [key]) = if Text.isPosition key then fieldName p else key := by
  rw [fieldName, List.reverse_append, List.reverse_singleton, List.singleton_append,
    List.find?_cons]
  cases Text.isPosition key <;> rfl

@[simp] theorem fieldName_position (p : Path) (i : UInt64) :
    fieldName (p ++ [toString i]) = fieldName p := by
  rw [fieldName_concat, if_pos (Text.isPosition_toString i)]

end Path

namespace Surroundings
variable {η : Type}

/-- Positions play no part. -/
theorem fieldName_path (s : Surroundings η) : s.path.fieldName = Path.fieldName s.keys := by
  have hfilter : s.path.filter (fun k => !Text.isPosition k) =
      s.keys.filter fun k => !Text.isPosition k := by
    induction s with
    | here => rfl
    | entry before key inner after ih => rw [path, keys, List.filter_cons, List.filter_cons, ih]
    | item before inner after ih =>
      rw [path, keys, List.filter_cons_of_neg (by simp [Text.isPosition_toString]), ih]
  rw [Path.fieldName_eq, Path.fieldName_eq, hfilter]

/-- Around a place in the values of an element there is at least one key. -/
theorem exists_keys_eq_concat {s : Surroundings η} {vs : Values η} {l : Leaf η}
    (h : .mapping vs = s.fill l.value) : ∃ outer key, s.keys = outer ++ [key] := by
  cases s with
  | here => cases l <;> cases h
  | entry before key inner after =>
    rcases List.eq_nil_or_concat (key :: inner.keys) with hnil | ⟨outer, last, hlast⟩
    · cases hnil
    · exact ⟨outer, last, hlast.trans (List.concat_eq_append ..)⟩
  | item before inner after => cases h

end Surroundings

namespace Resolver
variable (resolver : Resolver)

def answer (r : Reference Element) : Resolution → Option (Value Element)
  | .resolved v => some v
  | .deferred e => some (.reference (.ofElement e))
  | .unresolved => resolver.unresolved (.reference r)

theorem resolveLeaf_reference (parentType : String) (path : Path) (r : Reference Element) :
    resolver.resolveLeaf parentType path (.reference r) =
      resolver.answer r (resolver.resolve path.fieldName parentType r) := by
  rw [resolveLeaf]
  cases resolver.resolve path.fieldName parentType r <;> rfl

theorem resolveInstance_fill {i : Instance Element} {s : Surroundings Element} {l : Leaf Element}
    (h : .mapping i.value = s.fill l.value) :
    some (.mapping (resolver.resolveInstance i).value) =
      (s.mapLeaves (resolver.resolveLeaf i.typeName) []).fill?
        (resolver.resolveLeaf i.typeName s.path l) := by
  have hleaf : Value.mapLeavesM (m := Id) (resolver.resolveLeaf i.typeName) s.path l.value =
      resolver.resolveLeaf i.typeName s.path l := by
    cases l <;> rw [Leaf.value, Value.mapLeavesM]
  rw [← hleaf]
  exact Values.mapLeaves_fill (resolver.resolveLeaf i.typeName) h

/-- A reference at any depth is resolved with the strategy that the rules give for its field and the
type of the instance, or else with the default of the context. The field is the innermost key around
the reference, across all sequences, unless that key reads as a position. Then it is the field that
the keys around that one give. -/
theorem resolveInstance_by_field {i : Instance Element} {s : Surroundings Element}
    {r : Reference Element} (h : .mapping i.value = s.fill (.reference r)) :
    let field := Path.fieldName s.keys
    let strategy := (SerializationRule.strategyFor? resolver.rules field i.typeName).getD
      resolver.context.strategy
    some (.mapping (resolver.resolveInstance i).value) =
        (s.mapLeaves (resolver.resolveLeaf i.typeName) []).fill?
          (resolver.answer r (resolver.context.resolveWith strategy r)) ∧
      ∃ outer key, s.keys = outer ++ [key] ∧
        field = if Text.isPosition key then Path.fieldName outer else key := by
  intro field strategy
  constructor
  · rw [resolver.resolveInstance_fill (l := .reference r) h, resolveLeaf_reference,
      s.fieldName_path]
    rfl
  · obtain ⟨outer, key, hkeys⟩ := Surroundings.exists_keys_eq_concat (l := .reference r) h
    refine ⟨outer, key, hkeys, ?_⟩
    change Path.fieldName s.keys = _
    rw [hkeys, Path.fieldName_concat]

def bolt : Instance Element :=
  product "Bolt" [(idField, .text "01tBolt"), (fullNameField, .text "Bolt")]

def toBolt : Reference Element := .ofElement (.inst bolt)

def quote (values : Values Element) : Instance Element where
  name := "Q_1"
  type := { id := .type "salesforce" "Quote" }
  value := values

def byName (field : String) : SerializationRule := { field, strategy := .apiName }

/-- The product stands in the second row of a table and is still in the field Rows. -/
theorem resolveInstance_by_field_rows :
    let resolver : Resolver := { context := {}, rules := [byName "Rows"] }
    let i := quote [("Rows", .sequence [.sequence [], .sequence [.reference toBolt]])]
    let s : Surroundings Element :=
      .entry [] "Rows" (.item [.sequence []] (.item [] .here []) []) []
    .mapping i.value = s.fill (.reference toBolt) ∧ s.path = ["Rows", "1", "0"] ∧
      Path.fieldName s.keys = "Rows" ∧
      some (.mapping (resolver.resolveInstance i).value) =
        some (Value.mapping [("Rows", .sequence [.sequence [], .sequence [.text "Bolt"]])]) := by
  intro resolver i s
  have h : .mapping i.value = s.fill (.reference toBolt) := rfl
  exact ⟨h, by decide, by decide, (resolver.resolveInstance_by_field h).1⟩

/-- The key 1 reads as a position, so the rule for the field 1 is not used. -/
theorem rule_of_numbered_field_unused :
    let resolver : Resolver := { context := {}, rules := [byName "1"] }
    let i := quote [("1", .reference toBolt)]
    let s : Surroundings Element := .entry [] "1" .here []
    .mapping i.value = s.fill (.reference toBolt) ∧ s.keys = ["1"] ∧
      SerializationRule.strategyFor? resolver.rules "1" i.typeName = some .apiName ∧
      resolver.context.resolveWith .apiName toBolt = .resolved (.text "Bolt") ∧
      (resolver.resolveInstance i).value = [("1", .text "01tBolt")] ∧
      some (Value.mapping (resolver.resolveInstance i).value) ≠
        (s.mapLeaves (resolver.resolveLeaf i.typeName) []).fill?
          (resolver.answer toBolt (resolver.context.resolveWith .apiName toBolt)) := by
  intro resolver i s
  refine ⟨rfl, rfl, rfl, rfl, rfl, ?_⟩
  change some (Value.mapping [("1", .text "01tBolt")]) ≠ some (.mapping [("1", .text "Bolt")])
  simp [Value.text]

end Resolver

end ElementSync
