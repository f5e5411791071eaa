import ElementSync.Proofs.Value.Leaves

/-!
# Places in a tree

A place is told by what stands around it, from the root down. When the leaves of a tree are
replaced, the value in a place gives way to what it alone becomes under the path of the place. What
stands around it becomes the same, whatever the value is and even if it goes.
-/

namespace ElementSync

/-- A tree in which one place is left open. -/
inductive Surroundings (η : Type) where
  | here
  | entry (before : List (String × Value η)) (key : String) (inner : Surroundings η)
      (after : List (String × Value η))
  | item (before : List (Value η)) (inner : Surroundings η) (after : List (Value η))

namespace Surroundings
variable {η : Type}

def fill : Surroundings η → Value η → Value η
  | here, v => v
  | entry before key inner after, v => .mapping (before ++ (key, inner.fill v) :: after)
  | item before inner after, v => .sequence (before ++ inner.fill v :: after)

def fill? : Surroundings η → Option (Value η) → Option (Value η)
  | here, v => v
  | entry before key inner after, v =>
    some (.mapping (before ++ (inner.fill? v).elim after fun w => (key, w) :: after))
  | item before inner after, v =>
    some (.sequence (before ++ (inner.fill? v).elim after fun w => w :: after))

@[simp] theorem fill?_some (s : Surroundings η) (v : Value η) :
    s.fill? (some v) = some (s.fill v) := by
  induction s with
  | here => rfl
  | entry before key inner after ih => rw [fill?, ih, fill]; rfl
  | item before inner after ih => rw [fill?, ih, fill]; rfl

def path : Surroundings η → Path
  | here => []
  | entry _ key inner _ => key :: inner.path
  | item before inner _ => toString (UInt64.ofNat before.length) :: inner.path

def keys : Surroundings η → List String
  | here => []
  | entry _ key inner _ => key :: inner.keys
  | item _ inner _ => inner.keys

section
variable (f : Path → Leaf η → Option (Value η))

def mapLeaves (path : Path) : Surroundings η → Surroundings η
  | here => here
  | entry before key inner after =>
    entry (Values.mapEntries f path before) key (inner.mapLeaves (path ++ [key]))
      (Values.mapEntries f path after)
  | item before inner after =>
    let i := UInt64.ofNat before.length
    item (Value.mapItems f path 0 before) (inner.mapLeaves (path ++ [toString i]))
      (Value.mapItems f path (i + 1) after)

theorem mapLeavesM_fill (s : Surroundings η) (path : Path) (v : Value η) :
    Value.mapLeavesM (m := Id) f path (s.fill v) =
      (s.mapLeaves f path).fill? (Value.mapLeavesM (m := Id) f (path ++ s.path) v) := by
  induction s generalizing path with
  | here => rw [Surroundings.path, List.append_nil]; rfl
  | entry before key inner after ih =>
    have hpath : path ++ [key] ++ inner.path = path ++ (entry before key inner after).path := by
      rw [List.append_assoc]
      rfl
    have hentries := Values.mapEntries_append f path before ((key, inner.fill v) :: after)
    rw [Values.mapEntries_cons, ih, hpath] at hentries
    rw [fill, Value.mapLeavesM, Surroundings.mapLeaves, fill?]
    exact congrArg (fun es => some (Value.mapping es)) hentries
  | item before inner after ih =>
    let i := UInt64.ofNat before.length
    have hpath : path ++ [toString i] ++ inner.path = path ++ (item before inner after).path := by
      rw [List.append_assoc]
      rfl
    have hitems := Value.mapItems_append f path 0 before (inner.fill v :: after)
    rw [UInt64.zero_add, Value.mapItems_cons, ih, hpath] at hitems
    rw [fill, Value.mapLeavesM, Surroundings.mapLeaves, fill?]
    exact congrArg (fun vs => some (Value.sequence vs)) hitems

end

end Surroundings

/-- The same for the values of an element. -/
theorem Values.mapLeaves_fill {η : Type} (f : Path → Leaf η → Option (Value η))
    {s : Surroundings η} {vs : Values η} {v : Value η} (h : .mapping vs = s.fill v) :
    some (.mapping (vs.mapLeaves f)) =
      (s.mapLeaves f []).fill? (Value.mapLeavesM (m := Id) f s.path v) := by
  rw [← List.nil_append s.path, ← s.mapLeavesM_fill f, ← h, Value.mapLeavesM]
  rfl

end ElementSync
