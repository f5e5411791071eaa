import ElementSync.Value.Template

/-!
# Leaves of a value tree

A leaf is a scalar, a reference or a template. It is found under a path of keys
and positions. Leaves are visited depth first, and replacing the leaves
keeps every mapping and sequence, even one that it empties.
-/
namespace ElementSync

inductive Leaf (η : Type) where
  | scalar (s : Scalar)
  | reference (r : Reference η)
  | template (t : Template η)

/-- Keys of mappings and positions in sequences, from the root down. Positions are counted in
64 bits and written in decimal. -/
abbrev Path := List String

variable {η : Type}

namespace Leaf

def value : Leaf η → Value η
  | .scalar s => .scalar s
  | .reference r => .reference r
  | .template t => .template t

def references : Leaf η → List (Reference η)
  | .scalar _ => []
  | .reference r => [r]
  | .template t => t.references

end Leaf

namespace Value

mutual
def leaves (path : Path) : Value η → List (Path × Leaf η)
  | .scalar s => [(path, .scalar s)]
  | .reference r => [(path, .reference r)]
  | .template t => [(path, .template t)]
  | .mapping entries => entryLeaves path entries
  | .sequence items => itemLeaves path 0 items

def entryLeaves (path : Path) : List (String × Value η) → List (Path × Leaf η)
  | [] => []
  | (k, v) :: entries => leaves (path ++ [k]) v ++ entryLeaves path entries

def itemLeaves (path : Path) (i : UInt64) : List (Value η) → List (Path × Leaf η)
  | [] => []
  | v :: items => leaves (path ++ [toString i]) v ++ itemLeaves path (i + 1) items
end

section
variable {m : Type → Type} [Monad m] (f : Path → Leaf η → m (Option (Value η)))

mutual
/-- Replaces every leaf by `f`, which sees the path in the tree as it was. A
leaf for which `f` gives nothing is removed. -/
def mapLeavesM (path : Path) : Value η → m (Option (Value η))
  | .scalar s => f path (.scalar s)
  | .reference r => f path (.reference r)
  | .template t => f path (.template t)
  | .mapping entries => return some (.mapping (← mapEntriesM path entries))
  | .sequence items => return some (.sequence (← mapItemsM path 0 items))

def mapEntriesM (path : Path) : List (String × Value η) → m (List (String × Value η))
  | [] => return []
  | (k, v) :: entries => do
    let kept ← mapLeavesM (path ++ [k]) v
    let rest ← mapEntriesM path entries
    return kept.elim rest fun w => (k, w) :: rest

def mapItemsM (path : Path) (i : UInt64) : List (Value η) → m (List (Value η))
  | [] => return []
  | v :: items => do
    let kept ← mapLeavesM (path ++ [toString i]) v
    let rest ← mapItemsM path (i + 1) items
    return kept.elim rest fun w => w :: rest
end

end

end Value

namespace Values

def leaves (vs : Values η) : List (Path × Leaf η) := Value.entryLeaves [] vs

def mapLeavesM {m : Type → Type} [Monad m] (f : Path → Leaf η → m (Option (Value η)))
    (vs : Values η) : m (Values η) :=
  Value.mapEntriesM f [] vs

def mapLeaves (f : Path → Leaf η → Option (Value η)) (vs : Values η) : Values η :=
  mapLeavesM (m := Id) f vs

/-- Every reference, also inside templates, with the path of the leaf it is in. -/
def references (vs : Values η) : List (Path × Reference η) :=
  vs.leaves.flatMap fun (path, leaf) => leaf.references.map (path, ·)

end Values

end ElementSync
