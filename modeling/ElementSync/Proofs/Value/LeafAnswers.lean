import ElementSync.Proofs.Value.LeafPlaces
import Mathlib.Data.List.Forall2

/-!
# Answers for the leaves of a tree

Replacing the leaves of a tree asks once for each of them, in the order and under the paths in which
they are listed, whatever the answers depend on. The answers alone decide what the tree becomes.
-/

namespace ElementSync
variable {η σ : Type}

/-! ### What a tree becomes -/

mutual
/-- What becomes of a value when its leaves, one after the other, give way to the answers. A leaf
whose answer is nothing goes; a mapping or sequence stays, even if all that is in it goes. -/
inductive Value.Becomes : Value η → List (Option (Value η)) → Option (Value η) → Prop
  | scalar (s : Scalar) (a : Option (Value η)) : Becomes (.scalar s) [a] a
  | reference (r : Reference η) (a : Option (Value η)) : Becomes (.reference r) [a] a
  | template (t : Template η) (a : Option (Value η)) : Becomes (.template t) [a] a
  | mapping {es as fs} : Value.EntriesBecome es as fs →
      Becomes (.mapping es) as (some (.mapping fs))
  | sequence {vs as ws} : Value.ItemsBecome vs as ws →
      Becomes (.sequence vs) as (some (.sequence ws))

inductive Value.EntriesBecome : List (String × Value η) → List (Option (Value η)) →
    List (String × Value η) → Prop
  | nil : EntriesBecome [] [] []
  | cons {k v a es as bs fs} : Value.Becomes v as a → EntriesBecome es bs fs →
      EntriesBecome ((k, v) :: es) (as ++ bs) (a.elim fs fun w => (k, w) :: fs)

inductive Value.ItemsBecome : List (Value η) → List (Option (Value η)) → List (Value η) → Prop
  | nil : ItemsBecome [] [] []
  | cons {v a vs as bs ws} : Value.Becomes v as a → ItemsBecome vs bs ws →
      ItemsBecome (v :: vs) (as ++ bs) (a.elim ws fun w => w :: ws)
end

def Leaf.answers (f : Path → Leaf η → StateM σ (Option (Value η))) (ls : List (Path × Leaf η)) :
    StateM σ (List (Option (Value η))) :=
  ls.mapM fun l => f l.1 l.2

namespace Value
variable (f : Path → Leaf η → StateM σ (Option (Value η)))

theorem answers_cons (l : Path × Leaf η) (ls : List (Path × Leaf η)) (s : σ) :
    (Leaf.answers f (l :: ls)).run s =
      let first := (f l.1 l.2).run s
      let rest := (Leaf.answers f ls).run first.2
      (first.1 :: rest.1, rest.2) := by
  rw [Leaf.answers, List.mapM_cons]
  rfl

theorem answers_append (ls ms : List (Path × Leaf η)) (s : σ) :
    (Leaf.answers f (ls ++ ms)).run s =
      let first := (Leaf.answers f ls).run s
      let rest := (Leaf.answers f ms).run first.2
      (first.1 ++ rest.1, rest.2) := by
  rw [Leaf.answers, List.mapM_append]
  rfl

theorem mapEntriesM_run_cons (path : Path) (k : String) (v : Value η) (es : Values η) (s : σ) :
    (mapEntriesM f path ((k, v) :: es)).run s =
      let first := (mapLeavesM f (path ++ [k]) v).run s
      let rest := (mapEntriesM f path es).run first.2
      (first.1.elim rest.1 fun w => (k, w) :: rest.1, rest.2) := by
  rw [mapEntriesM]
  rfl

theorem mapItemsM_run_cons (path : Path) (i : UInt64) (v : Value η) (vs : List (Value η)) (s : σ) :
    (mapItemsM f path i (v :: vs)).run s =
      let first := (mapLeavesM f (path ++ [toString i]) v).run s
      let rest := (mapItemsM f path (i + 1) vs).run first.2
      (first.1.elim rest.1 fun w => w :: rest.1, rest.2) := by
  rw [mapItemsM]
  rfl

/-! ### A run asks for the leaves in order -/

mutual
theorem becomes_run (path : Path) (v : Value η) (s : σ) :
    let asked := (Leaf.answers f (v.leaves path)).run s
    let run := (mapLeavesM f path v).run s
    Becomes v asked.1 run.1 ∧ run.2 = asked.2 := by
  cases v with
  | scalar c =>
    rw [leaves, answers_cons, mapLeavesM]
    exact ⟨.scalar c _, rfl⟩
  | reference r =>
    rw [leaves, answers_cons, mapLeavesM]
    exact ⟨.reference r _, rfl⟩
  | template t =>
    rw [leaves, answers_cons, mapLeavesM]
    exact ⟨.template t _, rfl⟩
  | mapping es =>
    rw [leaves, mapLeavesM]
    obtain ⟨hentries, hstate⟩ := entriesBecome_run path es s
    exact ⟨.mapping hentries, hstate⟩
  | sequence vs =>
    rw [leaves, mapLeavesM]
    obtain ⟨hitems, hstate⟩ := itemsBecome_run path 0 vs s
    exact ⟨.sequence hitems, hstate⟩

theorem entriesBecome_run (path : Path) (es : List (String × Value η)) (s : σ) :
    let asked := (Leaf.answers f (entryLeaves path es)).run s
    let run := (mapEntriesM f path es).run s
    EntriesBecome es asked.1 run.1 ∧ run.2 = asked.2 := by
  cases es with
  | nil =>
    rw [entryLeaves, mapEntriesM]
    exact ⟨.nil, rfl⟩
  | cons e es =>
    obtain ⟨k, v⟩ := e
    obtain ⟨hfirst, hmiddle⟩ := becomes_run (path ++ [k]) v s
    obtain ⟨hrest, hstate⟩ := entriesBecome_run path es ((mapLeavesM f (path ++ [k]) v).run s).2
    rw [entryLeaves, answers_append, mapEntriesM_run_cons]
    dsimp only
    rw [← hmiddle]
    exact ⟨.cons hfirst hrest, hstate⟩

theorem itemsBecome_run (path : Path) (i : UInt64) (vs : List (Value η)) (s : σ) :
    let asked := (Leaf.answers f (itemLeaves path i vs)).run s
    let run := (mapItemsM f path i vs).run s
    ItemsBecome vs asked.1 run.1 ∧ run.2 = asked.2 := by
  cases vs with
  | nil =>
    rw [itemLeaves, mapItemsM]
    exact ⟨.nil, rfl⟩
  | cons v vs =>
    obtain ⟨hfirst, hmiddle⟩ := becomes_run (path ++ [toString i]) v s
    obtain ⟨hrest, hstate⟩ :=
      itemsBecome_run path (i + 1) vs ((mapLeavesM f (path ++ [toString i]) v).run s).2
    rw [itemLeaves, answers_append, mapItemsM_run_cons]
    dsimp only
    rw [← hmiddle]
    exact ⟨.cons hfirst hrest, hstate⟩
end

/-! ### The answers decide what becomes of the tree -/

mutual
theorem Becomes.length_eq {v : Value η} {as : List (Option (Value η))} {a : Option (Value η)}
    (h : Becomes v as a) (path : Path) : (v.leaves path).length = as.length := by
  cases h with
  | scalar s a => rw [leaves]; rfl
  | reference r a => rw [leaves]; rfl
  | template t a => rw [leaves]; rfl
  | mapping h => rw [leaves]; exact h.length_eq path
  | sequence h => rw [leaves]; exact h.length_eq path 0

theorem EntriesBecome.length_eq {es fs : List (String × Value η)} {as : List (Option (Value η))}
    (h : EntriesBecome es as fs) (path : Path) : (entryLeaves path es).length = as.length := by
  cases h with
  | nil => rw [entryLeaves]; rfl
  | cons h hs => rw [entryLeaves, List.length_append, List.length_append, h.length_eq, hs.length_eq]

theorem ItemsBecome.length_eq {vs ws : List (Value η)} {as : List (Option (Value η))}
    (h : ItemsBecome vs as ws) (path : Path) (i : UInt64) :
    (itemLeaves path i vs).length = as.length := by
  cases h with
  | nil => rw [itemLeaves]; rfl
  | cons h hs => rw [itemLeaves, List.length_append, List.length_append, h.length_eq, hs.length_eq]
end

mutual
theorem Becomes.unique {v : Value η} {as : List (Option (Value η))} {a b : Option (Value η)}
    (h : Becomes v as a) (h' : Becomes v as b) : a = b := by
  cases h with
  | scalar s a => cases h' with | scalar => rfl
  | reference r a => cases h' with | reference => rfl
  | template t a => cases h' with | template => rfl
  | mapping h => cases h' with | mapping h' => rw [h.unique h']
  | sequence h => cases h' with | sequence h' => rw [h.unique h']

theorem EntriesBecome.unique {es fs gs : List (String × Value η)} {as : List (Option (Value η))}
    (h : EntriesBecome es as fs) (h' : EntriesBecome es as gs) : fs = gs := by
  cases h with
  | nil => cases h'; rfl
  | @cons k v a es as bs fs h hs =>
    generalize hcs : as ++ bs = cs at h'
    cases h' with
    | cons h' hs' =>
      -- both derivations part the answers behind those for the leaves of `v`
      obtain ⟨rfl, rfl⟩ := List.append_inj hcs ((h.length_eq []).symm.trans (h'.length_eq []))
      rw [h.unique h', hs.unique hs']

theorem ItemsBecome.unique {vs ws us : List (Value η)} {as : List (Option (Value η))}
    (h : ItemsBecome vs as ws) (h' : ItemsBecome vs as us) : ws = us := by
  cases h with
  | nil => cases h'; rfl
  | @cons v a vs as bs ws h hs =>
    generalize hcs : as ++ bs = cs at h'
    cases h' with
    | cons h' hs' =>
      obtain ⟨rfl, rfl⟩ := List.append_inj hcs ((h.length_eq []).symm.trans (h'.length_eq []))
      rw [h.unique h', hs.unique hs']
end

end Value

/-! ### Leaves that are kept -/

namespace Leaf

def referenceList (ls : List (Path × Leaf η)) : List (Path × Reference η) :=
  ls.flatMap fun l => l.2.references.map (l.1, ·)

theorem referenceList_append (ls ms : List (Path × Leaf η)) :
    referenceList (ls ++ ms) = referenceList ls ++ referenceList ms :=
  List.flatMap_append

def IsKept (l : Path × Leaf η) (a : Option (Value η)) : Prop :=
  ∃ w, a = some w ∧ referenceList (w.leaves l.1) = referenceList [l]

theorem isKept_value (l : Path × Leaf η) : IsKept l (some l.2.value) :=
  ⟨l.2.value, rfl, by rw [Value.leaves_value]⟩

theorem forall₂_isKept_append {ls ms : List (Path × Leaf η)} {as bs : List (Option (Value η))}
    (h : List.Forall₂ IsKept (ls ++ ms) (as ++ bs)) (hlength : ls.length = as.length) :
    List.Forall₂ IsKept ls as ∧ List.Forall₂ IsKept ms bs := by
  have hfirst := List.forall₂_take_append _ _ _ h
  have hrest := List.forall₂_drop_append _ _ _ h
  rw [← hlength] at hfirst hrest
  rw [List.take_left] at hfirst
  rw [List.drop_left] at hrest
  exact ⟨hfirst, hrest⟩

end Leaf

namespace Value

mutual
theorem Becomes.referenceList_eq {v : Value η} {as : List (Option (Value η))}
    {a : Option (Value η)} (h : Becomes v as a) (path : Path)
    (hkept : List.Forall₂ Leaf.IsKept (v.leaves path) as) :
    ∃ w, a = some w ∧ Leaf.referenceList (w.leaves path) = Leaf.referenceList (v.leaves path) := by
  cases h with
  | scalar s a =>
    rw [leaves] at hkept ⊢
    exact (List.forall₂_cons.1 hkept).1
  | reference r a =>
    rw [leaves] at hkept ⊢
    exact (List.forall₂_cons.1 hkept).1
  | template t a =>
    rw [leaves] at hkept ⊢
    exact (List.forall₂_cons.1 hkept).1
  | mapping h =>
    rw [leaves] at hkept ⊢
    exact ⟨_, rfl, by rw [leaves]; exact h.referenceList_eq path hkept⟩
  | sequence h =>
    rw [leaves] at hkept ⊢
    exact ⟨_, rfl, by rw [leaves]; exact h.referenceList_eq path 0 hkept⟩

theorem EntriesBecome.referenceList_eq {es fs : List (String × Value η)}
    {as : List (Option (Value η))} (h : EntriesBecome es as fs) (path : Path)
    (hkept : List.Forall₂ Leaf.IsKept (entryLeaves path es) as) :
    Leaf.referenceList (entryLeaves path fs) = Leaf.referenceList (entryLeaves path es) := by
  cases h with
  | nil => rfl
  | @cons k v a es as bs fs h hs =>
    rw [entryLeaves] at hkept
    obtain ⟨hfirst, hrest⟩ := Leaf.forall₂_isKept_append hkept (h.length_eq _)
    obtain ⟨w, rfl, hw⟩ := h.referenceList_eq _ hfirst
    rw [Option.elim_some, entryLeaves, entryLeaves, Leaf.referenceList_append,
      Leaf.referenceList_append, hw, hs.referenceList_eq path hrest]

/-- No item goes, so that those behind it keep their positions. -/
theorem ItemsBecome.referenceList_eq {vs ws : List (Value η)} {as : List (Option (Value η))}
    (h : ItemsBecome vs as ws) (path : Path) (i : UInt64)
    (hkept : List.Forall₂ Leaf.IsKept (itemLeaves path i vs) as) :
    Leaf.referenceList (itemLeaves path i ws) = Leaf.referenceList (itemLeaves path i vs) := by
  cases h with
  | nil => rfl
  | @cons v a vs as bs ws h hs =>
    rw [itemLeaves] at hkept
    obtain ⟨hfirst, hrest⟩ := Leaf.forall₂_isKept_append hkept (h.length_eq _)
    obtain ⟨w, rfl, hw⟩ := h.referenceList_eq _ hfirst
    rw [Option.elim_some, itemLeaves, itemLeaves, Leaf.referenceList_append,
      Leaf.referenceList_append, hw, hs.referenceList_eq path (i + 1) hrest]
end

end Value

namespace Leaf
variable {f : Path → Leaf η → StateM σ (Option (Value η))}

/-- Who keeps any leaf it is asked about keeps them all. -/
theorem forall₂_isKept_answers (hf : ∀ path l s, IsKept (path, l) ((f path l).run s).1)
    (ls : List (Path × Leaf η)) (s : σ) : List.Forall₂ IsKept ls ((answers f ls).run s).1 := by
  induction ls generalizing s with
  | nil => exact .nil
  | cons l ls ih =>
    rw [Value.answers_cons]
    exact .cons (hf l.1 l.2 s) (ih _)

end Leaf

/-! ### Calls -/

def Leaf.noting (f : Path → Leaf η → StateM σ (Option (Value η))) :
    Path → Leaf η → StateM (σ × List (Path × Leaf η)) (Option (Value η)) :=
  fun path l (s, calls) =>
    let (a, s) := (f path l).run s
    (a, s, calls ++ [(path, l)])

theorem Leaf.answers_noting (f : Path → Leaf η → StateM σ (Option (Value η)))
    (ls calls : List (Path × Leaf η)) (s : σ) :
    (answers (noting f) ls).run (s, calls) =
      let asked := (answers f ls).run s
      (asked.1, asked.2, calls ++ ls) := by
  induction ls generalizing s calls with
  | nil => rw [List.append_nil]; rfl
  | cons l ls ih =>
    have hfirst : (noting f l.1 l.2).run (s, calls) =
        (((f l.1 l.2).run s).1, ((f l.1 l.2).run s).2, calls ++ [l]) := rfl
    rw [Value.answers_cons, Value.answers_cons, hfirst]
    dsimp only
    rw [ih, List.append_assoc, List.singleton_append]

namespace Values

/-- Replacing the leaves asks for each leaf once, in order and under the path of the place that it
stands in, and puts the answers in the places of the leaves. When all leaves are kept, the
references stay where they were. -/
theorem mapLeavesM_asks_each_leaf (f : Path → Leaf η → StateM σ (Option (Value η)))
    (vs : Values η) (s : σ) :
    let asked := (Leaf.answers f vs.leaves).run s
    let run := (vs.mapLeavesM f).run s
    run.2 = asked.2 ∧
    ((vs.mapLeavesM (Leaf.noting f)).run (s, [])).2 = (asked.2, vs.leaves) ∧
    (∀ path l, (path, l) ∈ vs.leaves ↔
      ∃ place : Surroundings η, .mapping vs = place.fill l.value ∧ path = place.path) ∧
    (∀ ws, Value.EntriesBecome vs asked.1 ws ↔ ws = run.1) ∧
    (List.Forall₂ Leaf.IsKept vs.leaves asked.1 → run.1.references = vs.references) := by
  obtain ⟨hbecome, hstate⟩ := Value.entriesBecome_run f [] vs s
  refine ⟨hstate, ?_, ?_, ?_, fun hkept => hbecome.referenceList_eq [] hkept⟩
  · have hnoted := (Value.entriesBecome_run (Leaf.noting f) [] vs (s, [])).2
    exact hnoted.trans (congrArg Prod.snd (Leaf.answers_noting f vs.leaves [] s))
  · intro path l
    have hplaces : (path, l) ∈ (Value.mapping vs).leaves [] ↔
        ∃ place : Surroundings η, .mapping vs = place.fill l.value ∧ path = [] ++ place.path :=
      Value.mem_leaves_iff
    rwa [Value.leaves] at hplaces
  · intro ws
    constructor
    · intro h
      exact h.unique hbecome
    · rintro rfl
      exact hbecome

/-- Scalars give way to the number of leaves before them, all else stays. -/
def numberScalars : Path → Leaf η → StateM Nat (Option (Value η)) := fun _ l n =>
  match l with
  | .scalar _ => (some (.int n), n + 1)
  | l => (some l.value, n + 1)

def quote : Values Unit :=
  [("Name", .text "Q-1"),
    ("Lines", .sequence [.mapping [("Product", .reference ⟨.inst "sf" "Product2" "Bolt", none⟩)]])]

theorem mapLeavesM_asks_each_leaf_quote :
    List.Forall₂ Leaf.IsKept quote.leaves ((Leaf.answers numberScalars quote.leaves).run 0).1 ∧
      ((quote.mapLeavesM numberScalars).run 0).1.references = quote.references := by
  have hkeeps : ∀ path (l : Leaf Unit) n,
      Leaf.IsKept (path, l) ((numberScalars path l).run n).1 := by
    intro path l n
    cases l with
    | scalar s => exact ⟨.int n, rfl, by simp [Value.int, Value.leaves]; rfl⟩
    | reference r => exact Leaf.isKept_value (path, .reference r)
    | template t => exact Leaf.isKept_value (path, .template t)
  have hkept := Leaf.forall₂_isKept_answers hkeeps quote.leaves 0
  exact ⟨hkept, (mapLeavesM_asks_each_leaf numberScalars quote 0).2.2.2.2 hkept⟩

end Values

end ElementSync
