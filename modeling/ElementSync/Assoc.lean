/-!
# Insertion-ordered maps

A map is the list of its entries in the order in which the keys first came in.
Writing to a present key keeps the place of the key; a new key goes last.
-/
namespace ElementSync

abbrev Assoc (κ α : Type) := List (κ × α)

namespace Assoc
variable {κ α β : Type}

def keys (m : Assoc κ α) : List κ := m.map Prod.fst

def values (m : Assoc κ α) : List α := m.map Prod.snd

variable [DecidableEq κ]

def hasKey (m : Assoc κ α) (k : κ) : Bool := (m.lookup k).isSome

def put : Assoc κ α → κ → α → Assoc κ α
  | [], k, a => [(k, a)]
  | (k', b) :: m, k, a => if k' = k then (k, a) :: m else (k', b) :: put m k a

/-- Only the entry of the key goes; the others keep their order. -/
def remove : Assoc κ α → κ → Assoc κ α
  | [], _ => []
  | (k', b) :: m, k => if k' = k then m else (k', b) :: remove m k

/-- The entry of the key goes and the last entry takes its place. -/
def replaceByLast : Assoc κ α → κ → Assoc κ α
  | [], _ => []
  | (k', b) :: m, k =>
    if k' = k then m.getLast?.toList ++ m.dropLast else (k', b) :: replaceByLast m k

def ofList (entries : List (κ × α)) : Assoc κ α :=
  entries.foldl (fun m e => put m e.1 e.2) []

theorem lookup_cons_eq_ite (k k' : κ) (a : α) (m : Assoc κ α) :
    List.lookup k' ((k, a) :: m) = if k' = k then some a else m.lookup k' := by
  by_cases h : k' = k
  · simp [h]
  · simp [h, List.lookup_cons, beq_eq_false_iff_ne.2 h]

theorem lookup_put (m : Assoc κ α) (k k' : κ) (a : α) :
    (put m k a).lookup k' = if k' = k then some a else m.lookup k' := by
  induction m with
  | nil => exact lookup_cons_eq_ite k k' a []
  | cons e m ih =>
    obtain ⟨l, b⟩ := e
    by_cases hl : l = k
    · subst hl
      simp only [put, if_true, lookup_cons_eq_ite]
      split <;> rfl
    · simp only [put, hl, if_false, lookup_cons_eq_ite, ih]
      by_cases h : k' = l
      · subst h
        simp [hl]
      · simp [h]

theorem lookup_of_mem {m : Assoc κ α} (hm : (keys m).Nodup) {e : κ × α} (he : e ∈ m) :
    m.lookup e.1 = some e.2 := by
  induction m with
  | nil => cases he
  | cons f m ih =>
    obtain ⟨hf, hm⟩ := List.nodup_cons.1 hm
    rw [lookup_cons_eq_ite]
    rcases List.mem_cons.1 he with rfl | he
    · exact if_pos rfl
    · have hne : e.1 ≠ f.1 := fun h => hf (h ▸ List.mem_map_of_mem he)
      rw [if_neg hne, ih hm he]

theorem mem_of_lookup {m : Assoc κ α} {k : κ} {a : α} (h : m.lookup k = some a) : (k, a) ∈ m := by
  obtain ⟨before, after, rfl, -⟩ := List.lookup_eq_some_iff.1 h
  simp

theorem keys_put_of_mem {m : Assoc κ α} {k : κ} (h : k ∈ keys m) (a : α) :
    keys (put m k a) = keys m := by
  induction m with
  | nil => simp [keys] at h
  | cons e m ih =>
    by_cases hl : e.1 = k
    · simp [put, hl, keys]
    · have h' : k ∈ keys m := by simpa [keys, Ne.symm hl] using h
      simpa [put, hl, keys] using ih h'

theorem keys_put_of_notMem {m : Assoc κ α} {k : κ} (h : k ∉ keys m) (a : α) :
    keys (put m k a) = keys m ++ [k] := by
  induction m with
  | nil => rfl
  | cons e m ih =>
    have hl : e.1 ≠ k := fun hl => h (by simp [keys, hl])
    have h' : k ∉ keys m := fun hm => h (by simpa [keys] using Or.inr hm)
    simpa [put, hl, keys] using ih h'

theorem put_put (m : Assoc κ α) (k : κ) (a b : α) : put (put m k a) k b = put m k b := by
  induction m with
  | nil => simp [put]
  | cons e m ih =>
    by_cases hl : e.1 = k
    · simp [put, hl]
    · simp [put, hl, ih]

/-- Writing what is there already changes nothing. -/
theorem put_of_lookup {m : Assoc κ α} {k : κ} {a : α} (h : m.lookup k = some a) : put m k a = m := by
  induction m with
  | nil => simp at h
  | cons e m ih =>
    obtain ⟨l, b⟩ := e
    rw [lookup_cons_eq_ite] at h
    by_cases hl : k = l
    · rw [if_pos hl] at h
      rw [put, if_pos hl.symm, hl, Option.some.inj h]
    · rw [if_neg hl] at h
      rw [put, if_neg (Ne.symm hl), ih h]

/-- A key that is there keeps its place, whichever of two keys is written first. -/
theorem put_comm_of_mem {m : Assoc κ α} {k l : κ} (hkl : k ≠ l) (hk : k ∈ keys m) (a b : α) :
    put (put m k a) l b = put (put m l b) k a := by
  induction m with
  | nil => simp [keys] at hk
  | cons e m ih =>
    by_cases hek : e.1 = k
    · have hel : e.1 ≠ l := hek ▸ hkl
      simp [put, hek, hkl]
    · have hk' : k ∈ keys m := by simpa [keys, Ne.symm hek] using hk
      by_cases hel : e.1 = l
      · simp [put, hel, Ne.symm hkl]
      · simp [put, hek, hel, ih hk']

theorem lookup_filter (m : Assoc κ α) (p : κ → Bool) (k : κ) :
    List.lookup k (m.filter fun e => p e.1) = if p k then m.lookup k else none := by
  induction m with
  | nil => simp
  | cons e m ih =>
    obtain ⟨l, b⟩ := e
    rw [List.filter_cons, lookup_cons_eq_ite]
    by_cases hk : k = l
    · subst hk
      split
      case isTrue h => rw [lookup_cons_eq_ite, if_pos rfl, if_pos rfl]
      case isFalse h => rw [ih, if_neg h]
    · rw [if_neg hk, ← ih]
      split
      · rw [lookup_cons_eq_ite, if_neg hk]
      · rfl

theorem mem_of_lookup_foldl_put {entries : List (κ × α)} {m : Assoc κ α} {k : κ} {a : α}
    (h : (entries.foldl (fun m e => put m e.1 e.2) m).lookup k = some a) :
    (k, a) ∈ entries ∨ m.lookup k = some a := by
  induction entries generalizing m with
  | nil => exact Or.inr h
  | cons e entries ih =>
    rcases ih h with hmem | hlookup
    · exact Or.inl (List.mem_cons_of_mem e hmem)
    · rw [lookup_put] at hlookup
      split at hlookup
      case isTrue hk =>
        rw [hk, ← Option.some.inj hlookup]
        exact Or.inl List.mem_cons_self
      case isFalse => exact Or.inr hlookup

/-- Whichever of several entries with one key is kept, it is one of them. -/
theorem mem_of_lookup_ofList {entries : List (κ × α)} {k : κ} {a : α}
    (h : (ofList entries).lookup k = some a) : (k, a) ∈ entries :=
  (mem_of_lookup_foldl_put h).resolve_right (by simp)

section
variable {γ : Type} {step : Assoc κ α → γ → Assoc κ α} {key : γ → κ} {f : γ → Option α}
  (hstep : ∀ m c k, (step m c).lookup k = if k = key c then (f c).or (m.lookup k) else m.lookup k)
include hstep

theorem lookup_foldl_of_notMem {cs : List γ} {k : κ} (hk : k ∉ cs.map key) (m : Assoc κ α) :
    (cs.foldl step m).lookup k = m.lookup k := by
  induction cs generalizing m with
  | nil => rfl
  | cons c cs ih =>
    rw [List.map_cons, List.mem_cons, not_or] at hk
    rw [List.foldl_cons, ih hk.2, hstep, if_neg hk.1]

/-- A map that is written once for each key holds under it what was written. -/
theorem lookup_foldl_of_mem {cs : List γ} (hcs : (cs.map key).Nodup) {c : γ} (hc : c ∈ cs)
    (m : Assoc κ α) : (cs.foldl step m).lookup (key c) = (f c).or (m.lookup (key c)) := by
  induction cs generalizing m with
  | nil => cases hc
  | cons d cs ih =>
    obtain ⟨hd, hcs⟩ := List.nodup_cons.1 hcs
    rw [List.foldl_cons]
    rcases List.mem_cons.1 hc with rfl | hc
    · rw [lookup_foldl_of_notMem hstep hd, hstep, if_pos rfl]
    · have hne : key c ≠ key d := fun h => hd (h ▸ List.mem_map_of_mem hc)
      rw [ih hcs hc, hstep, if_neg hne]

end

end Assoc

end ElementSync
