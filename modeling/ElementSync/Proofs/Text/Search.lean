import ElementSync.Proofs.Text.Runs

/-!
# Cutting a text into runs and searching it for runs

There is one way to cut a text into runs that change kind from one to the next. A search that goes
through the text from left to right, and takes a run as early as one begins and as far as it goes,
leaves nothing out and so finds just these.
-/

namespace ElementSync.Text

structure AlternatingRuns (raw : String) (ss : List String) : Prop where
  join_eq : String.join ss = raw
  isRun : ∀ s ∈ ss, ∃ k, IsRun k s
  alternate : ss.IsChain fun s t => ∀ k, IsRun k s → ¬ IsRun k t

/-- What a search finds in a text: no match begins before the first one, none that begins with it is
longer, and behind it the search goes on. -/
inductive Finds (IsMatch : String → Prop) : String → List String → Prop where
  | nothing {raw : String} (none_inside : ∀ a m b, raw = a ++ m ++ b → ¬ IsMatch m) :
      Finds IsMatch raw []
  | next {skipped m rest : String} {ms : List String} (isMatch : IsMatch m)
      (leftmost : ∀ a m' b, skipped ++ m ++ rest = a ++ m' ++ b → IsMatch m' →
        skipped.length ≤ a.length)
      (greedy : ∀ m' b, m ++ rest = m' ++ b → IsMatch m' → m'.length ≤ m.length)
      (later : Finds IsMatch rest ms) :
      Finds IsMatch (skipped ++ m ++ rest) (m :: ms)

namespace IsRun
variable {k : Bool} {s t : String}

theorem append (hs : IsRun k s) (ht : IsRun k t) : IsRun k (s ++ t) where
  ne_empty h := hs.ne_empty (String.append_eq_empty_iff.1 h).1
  isDigit_eq c hc := by
    rw [String.toList_append, List.mem_append] at hc
    exact hc.elim (hs.isDigit_eq c) (ht.isDigit_eq c)

end IsRun

theorem isRun_singleton (c : Char) : IsRun c.isDigit (String.singleton c) where
  ne_empty := by simp
  isDigit_eq d hd := by
    rw [String.toList_singleton, List.mem_singleton] at hd
    rw [hd]

variable {raw : String} {ss : List String}

theorem alternatingRuns_digitRuns (raw : String) : AlternatingRuns raw (digitRuns raw) where
  join_eq := join_digitRuns raw
  isRun _ hs := exists_isRun_of_mem_digitRuns hs
  alternate := by
    refine (isChain_apart_digitRuns raw).imp ?_
    intro s t hapart k hs ht
    exact (hs.apart_iff ht).1 hapart rfl

theorem AlternatingRuns.isChain_apart (h : AlternatingRuns raw ss) : ss.IsChain Apart := by
  refine List.IsChain.imp_of_mem_imp ?_ h.alternate
  intro s t hs ht hdiff
  obtain ⟨k, hk⟩ := h.isRun s hs
  obtain ⟨l, hl⟩ := h.isRun t ht
  rw [hk.apart_iff hl]
  rintro rfl
  exact hdiff k hk hl

theorem AlternatingRuns.eq_digitRuns (h : AlternatingRuns raw ss) : ss = digitRuns raw := by
  rw [← h.join_eq, digitRuns_join ?_ h.isChain_apart]
  intro s hs
  obtain ⟨k, hk⟩ := h.isRun s hs
  exact hk.digitRuns_eq_singleton

theorem alternatingRuns_iff : AlternatingRuns raw ss ↔ ss = digitRuns raw := by
  constructor
  · exact AlternatingRuns.eq_digitRuns
  · rintro rfl
    exact alternatingRuns_digitRuns raw

/-! ### Searching for runs -/

theorem exists_isRun_of_ne_empty (h : raw ≠ "") : ∃ m b, raw = "" ++ m ++ b ∧ ∃ k, IsRun k m := by
  obtain ⟨c, cs, hcons⟩ := List.exists_cons_of_ne_nil (mt String.toList_eq_nil_iff.1 h)
  refine ⟨String.singleton c, String.ofList cs, ?_, _, isRun_singleton c⟩
  apply String.toList_injective
  simpa using hcons

/-- Every character is a run, so that none is skipped; and a run that went on in the next one found
would not have been taken as far as it goes. -/
theorem Finds.alternatingRuns (h : Finds (fun s => ∃ k, IsRun k s) raw ss) :
    AlternatingRuns raw ss := by
  induction h with
  | @nothing raw none_inside =>
    have hempty : raw = "" := by
      by_contra hne
      obtain ⟨m, b, hm, hrun⟩ := exists_isRun_of_ne_empty hne
      exact none_inside _ m b hm hrun
    exact ⟨hempty.symm, nofun, List.isChain_nil⟩
  | @next skipped m rest ms isMatch leftmost greedy later ih =>
    have hskipped : skipped = "" := by
      have hne : skipped ++ m ++ rest ≠ "" := by
        obtain ⟨k, hk⟩ := isMatch
        simp [hk.ne_empty]
      obtain ⟨m', b, hm, hrun⟩ := exists_isRun_of_ne_empty hne
      simpa using leftmost _ m' b hm hrun
    subst hskipped
    refine ⟨?_, ?_, ?_⟩
    · rw [String.join_cons, ih.join_eq, String.empty_append]
    · rintro s (_ | ⟨_, hs⟩)
      · exact isMatch
      · exact ih.isRun s hs
    · refine List.isChain_cons.2 ⟨?_, ih.alternate⟩
      intro t ht k hm hrun
      obtain ⟨ts, rfl⟩ := List.head?_eq_some_iff.1 ht
      have hgoes : m ++ rest = (m ++ t) ++ String.join ts := by
        rw [← ih.join_eq, String.join_cons, String.append_assoc]
      have hlength := greedy _ _ hgoes ⟨k, hm.append hrun⟩
      rw [String.length_append] at hlength
      exact hrun.ne_empty (String.length_eq_zero_iff.1 (by omega))

/-- A run at the beginning of a text ends with the first of its alternating runs at the latest. -/
theorem AlternatingRuns.length_le {s : String} (h : AlternatingRuns raw (s :: ss)) {m b : String}
    {k : Bool} (hm : IsRun k m) (hraw : raw = m ++ b) : m.length ≤ s.length := by
  have hchars : s.toList ++ (String.join ss).toList = m.toList ++ b.toList := by
    rw [← String.toList_append, ← String.toList_append, ← hraw, ← h.join_eq, String.join_cons]
  rw [← String.length_toList, ← String.length_toList]
  rcases List.append_eq_append_iff.1 hchars with ⟨cs, hover, hnext⟩ | ⟨cs, hpart, -⟩
  · cases cs with
    | nil => rw [hover, List.append_nil]
    | cons c cs =>
      -- the run would go over the end of the first one
      have hne : ∀ t ∈ s :: ss, t ≠ "" := by
        intro t ht
        obtain ⟨l, hl⟩ := h.isRun t ht
        exact hl.ne_empty
      have hapart : Apart s (String.join ss) :=
        Apart.join (fun t ht => hne t (List.mem_cons_of_mem s ht)) h.isChain_apart
      have hs : s.toList ≠ [] := mt String.toList_eq_nil_iff.1 (hne s List.mem_cons_self)
      have hdiff := hapart _ (List.getLast_mem_getLast? hs) c (by rw [hnext]; rfl)
      have hlast : (s.toList.getLast hs).isDigit = k :=
        hm.isDigit_eq _ (by rw [hover]; exact List.mem_append_left _ (List.getLast_mem hs))
      have hc : c.isDigit = k := hm.isDigit_eq c (by rw [hover]; simp)
      simp [sameKind, hlast, hc] at hdiff
  · rw [hpart, List.length_append]
    omega

theorem AlternatingRuns.finds (h : AlternatingRuns raw ss) :
    Finds (fun s => ∃ k, IsRun k s) raw ss := by
  induction ss generalizing raw with
  | nil =>
    apply Finds.nothing
    rintro a m b hraw ⟨k, hm⟩
    rw [← h.join_eq, String.join_nil] at hraw
    have hempty : (a = "" ∧ m = "") ∧ b = "" := by simpa using hraw.symm
    exact hm.ne_empty hempty.1.2
  | cons s ss ih =>
    have hrest : AlternatingRuns (String.join ss) ss :=
      ⟨rfl, fun t ht => h.isRun t (List.mem_cons_of_mem s ht), h.alternate.tail⟩
    have hraw : raw = "" ++ s ++ String.join ss := by
      rw [← h.join_eq, String.join_cons, String.empty_append]
    rw [hraw]
    refine Finds.next (h.isRun s List.mem_cons_self) (by simp) ?_ (ih hrest)
    rintro m b hm ⟨k, hrun⟩
    have hbegin : raw = m ++ b := by rw [hraw, String.empty_append, hm]
    exact h.length_le hrun hbegin

theorem finds_iff : Finds (fun s => ∃ k, IsRun k s) raw ss ↔ ss = digitRuns raw :=
  ⟨fun h => h.alternatingRuns.eq_digitRuns, fun h => (alternatingRuns_iff.2 h).finds⟩

example : digitRuns "1 AND\n٣02" = ["1", " AND\n٣", "02"] := by decide

end ElementSync.Text
