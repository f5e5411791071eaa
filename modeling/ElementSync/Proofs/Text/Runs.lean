import ElementSync.Proofs.Text.Numerals

/-!
# Runs side by side

Cutting a text into runs undoes joining them, as long as no run goes on in its neighbour. So the
runs of a text can be exchanged for others of their kind one by one. A number in decimal form is
a run of digits and its own numeral.
-/

namespace ElementSync.Text

/-- No run goes over from the end of one text into the beginning of the other. -/
def Apart (s t : String) : Prop :=
  ∀ c ∈ s.toList.getLast?, ∀ d ∈ t.toList.head?, sameKind c d = false

theorem digitRuns_append {s t : String} (h : Apart s t) :
    digitRuns (s ++ t) = digitRuns s ++ digitRuns t := by
  rw [digitRuns_eq, digitRuns_eq, digitRuns_eq, String.toList_append, runs,
    List.splitBy_append h, List.map_append]
  rfl

theorem Apart.append_right {s t : String} (ht : t ≠ "") (h : Apart s t) (u : String) :
    Apart s (t ++ u) := by
  intro c hc d hd
  obtain ⟨a, as, hcons⟩ := List.exists_cons_of_ne_nil (mt String.toList_eq_nil_iff.1 ht)
  rw [String.toList_append, hcons] at hd
  exact h c hc d (by rw [hcons]; exact hd)

theorem Apart.join {s : String} {ss : List String} (hne : ∀ t ∈ ss, t ≠ "")
    (h : (s :: ss).IsChain Apart) : Apart s (String.join ss) := by
  cases ss with
  | nil => simp [Apart]
  | cons t ss =>
    rw [String.join_cons]
    exact (List.isChain_cons_cons.1 h).1.append_right (hne t List.mem_cons_self) _

/-- Texts that are apart, each a run, are the runs of the text that they join to. -/
theorem digitRuns_join {ss : List String} (hrun : ∀ s ∈ ss, digitRuns s = [s])
    (hapart : ss.IsChain Apart) : digitRuns (String.join ss) = ss := by
  induction ss with
  | nil => rfl
  | cons s ss ih =>
    have hrest := ih (fun t ht => hrun t (List.mem_cons_of_mem s ht)) hapart.tail
    have hne : ∀ t ∈ ss, t ≠ "" := by
      rintro t ht rfl
      cases hrun "" (List.mem_cons_of_mem s ht)
    rw [String.join_cons, digitRuns_append (Apart.join hne hapart), hrest,
      hrun s List.mem_cons_self]
    rfl

structure IsRun (digits : Bool) (s : String) : Prop where
  ne_empty : s ≠ ""
  isDigit_eq : ∀ c ∈ s.toList, c.isDigit = digits

namespace IsRun
variable {k l : Bool} {s t : String}

theorem digitRuns_eq_singleton (h : IsRun k s) : digitRuns s = [s] := by
  have hchain : s.toList.IsChain fun a b => sameKind a b :=
    List.Pairwise.isChain (List.pairwise_of_forall_mem_list fun a ha b hb => by
      simp [sameKind, h.isDigit_eq a ha, h.isDigit_eq b hb])
  rw [digitRuns_eq, runs,
    List.splitBy_of_isChain (mt String.toList_eq_nil_iff.1 h.ne_empty) hchain]
  simp

theorem apart_iff (hs : IsRun k s) (ht : IsRun l t) : Apart s t ↔ k ≠ l := by
  have hs' := mt String.toList_eq_nil_iff.1 hs.ne_empty
  have ht' := mt String.toList_eq_nil_iff.1 ht.ne_empty
  simp [Apart, sameKind, List.getLast?_eq_some_getLast hs', List.head?_eq_some_head ht',
    hs.isDigit_eq _ (List.getLast_mem hs'), ht.isDigit_eq _ (List.head_mem ht')]

end IsRun

variable {raw : String}

theorem exists_isRun_of_mem_digitRuns {s : String} (hs : s ∈ digitRuns raw) :
    ∃ k, IsRun k s := by
  rw [digitRuns_eq] at hs
  obtain ⟨g, hg, rfl⟩ := List.mem_map.1 hs
  have hchain : g.IsChain fun a b => sameKind a b := List.isChain_of_mem_splitBy hg
  cases g with
  | nil => exact absurd rfl (ne_nil_of_mem_runs hg)
  | cons c g =>
    refine ⟨c.isDigit, ?_, ?_⟩
    · simp
    · rw [String.toList_ofList]
      exact isDigit_eq_of_isChain hchain

theorem isChain_apart_digitRuns (raw : String) : (digitRuns raw).IsChain Apart := by
  rw [digitRuns_eq, List.isChain_map]
  refine List.IsChain.imp ?_ (List.isChain_getLast_head_splitBy sameKind raw.toList)
  rintro g g' ⟨hg, hg', hdiff⟩ c hc d hd
  rw [String.toList_ofList, List.getLast?_eq_some_getLast hg] at hc
  rw [String.toList_ofList, List.head?_eq_some_head hg'] at hd
  cases hc
  cases hd
  exact hdiff

/-- Runs can be exchanged for runs of the same kind. -/
theorem digitRuns_join_map {f : String → String}
    (hf : ∀ s ∈ digitRuns raw, ∀ k, IsRun k s → IsRun k (f s)) :
    digitRuns (String.join ((digitRuns raw).map f)) = (digitRuns raw).map f := by
  apply digitRuns_join
  · intro t ht
    obtain ⟨s, hs, rfl⟩ := List.mem_map.1 ht
    obtain ⟨k, hk⟩ := exists_isRun_of_mem_digitRuns hs
    exact (hf s hs k hk).digitRuns_eq_singleton
  · rw [List.isChain_map]
    refine List.IsChain.imp_of_mem_imp ?_ (isChain_apart_digitRuns raw)
    intro s t hs ht hapart
    obtain ⟨k, hk⟩ := exists_isRun_of_mem_digitRuns hs
    obtain ⟨l, hl⟩ := exists_isRun_of_mem_digitRuns ht
    rw [(hf s hs k hk).apart_iff (hf t ht l hl)]
    exact (hk.apart_iff hl).1 hapart

/-! ### Numbers in decimal form -/

theorem isDigit_of_mem_toDigits {n : Nat} {c : Char} (hc : c ∈ Nat.toDigits 10 n) :
    c.isDigit = true :=
  Nat.isDigit_of_mem_toDigits (by decide) (by decide) hc

theorem isRun_toString (n : Nat) : IsRun true (toString n) where
  ne_empty := by
    rw [Nat.toString_eq_ofList_toDigits]
    simp [Nat.toDigits_ne_nil]
  isDigit_eq c hc := by
    rw [Nat.toString_eq_ofList_toDigits, String.toList_ofList] at hc
    exact isDigit_of_mem_toDigits hc

/-- The decimal form of a number other than zero has no leading zero. -/
theorem head?_toDigits_ne {n : Nat} (hn : 0 < n) : (Nat.toDigits 10 n).head? ≠ some '0' := by
  induction n using Nat.strongRecOn with
  | ind n ih =>
    by_cases hlt : n < 10
    · rw [Nat.toDigits_of_lt_base hlt]
      intro h
      have hzero : n.digitChar.toNat = '0'.toNat := congrArg Char.toNat (Option.some.inj h)
      rw [Nat.toNat_digitChar_of_lt_ten hlt] at hzero
      change 48 + n = 48 at hzero
      omega
    · rw [Nat.toDigits_of_base_le (by decide) (by omega), List.head?_append,
        List.head?_eq_some_head Nat.toDigits_ne_nil, Option.some_or,
        ← List.head?_eq_some_head Nat.toDigits_ne_nil]
      exact ih (n / 10) (by omega) (by omega)

theorem isPlain_toDigits (n : Nat) : isPlain (Nat.toDigits 10 n) = true := by
  rcases Nat.eq_zero_or_pos n with rfl | hn
  · rfl
  · simp [isPlain, head?_toDigits_ne hn]

@[simp] theorem number_toDigits (n : Nat) : number (Nat.toDigits 10 n) = n :=
  Nat.ofDigitChars_ten_toDigits

end ElementSync.Text
