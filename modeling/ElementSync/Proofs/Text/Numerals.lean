import ElementSync.Text.Split
import Mathlib.Data.List.SplitBy

/-!
# Numerals in a text

The numerals of a text are its maximal runs of ASCII digits. Cutting a text into runs finds
exactly these. A numeral without leading zero is the decimal form of the number it writes, so
the number can stand for it.
-/

namespace ElementSync.Text

def numerals (cs : List Char) : List (List Char) :=
  (cs.splitOnP fun c => !c.isDigit).filter fun run => !run.isEmpty

@[simp] theorem numerals_nil : numerals [] = [] := rfl

theorem numerals_cons_of_not_isDigit {c : Char} (hc : c.isDigit = false) (cs : List Char) :
    numerals (c :: cs) = numerals cs := by
  simp [numerals, List.splitOnP_cons_eq_if_modifyHead, hc]

theorem numerals_append_of_not_isDigit {g : List Char} (hg : ∀ c ∈ g, c.isDigit = false)
    (cs : List Char) : numerals (g ++ cs) = numerals cs := by
  induction g with
  | nil => rfl
  | cons c g ih =>
    rw [List.cons_append, numerals_cons_of_not_isDigit (hg c (by simp)),
      ih fun d hd => hg d (by simp [hd])]

theorem numerals_append_of_isDigit {g : List Char} (hne : g ≠ [])
    (hg : ∀ c ∈ g, c.isDigit = true) {cs : List Char} (hcs : ∀ c ∈ cs.head?, c.isDigit = false) :
    numerals (g ++ cs) = g :: numerals cs := by
  have hp : ∀ c ∈ g, (!c.isDigit) = false := fun c hc => by simp [hg c hc]
  cases cs with
  | nil => simp [numerals, List.splitOnP_eq_singleton hp, hne]
  | cons c cs =>
    have hc : c.isDigit = false := hcs c rfl
    rw [numerals_cons_of_not_isDigit hc, numerals,
      List.splitOnP_append_cons_of_forall_mem hp c (by simp [hc])]
    simp [numerals, hne]

def sameKind (a b : Char) : Bool := a.isDigit == b.isDigit

theorem isDigit_eq_of_isChain {c : Char} {cs : List Char}
    (h : (c :: cs).IsChain fun a b => sameKind a b) : ∀ d ∈ c :: cs, d.isDigit = c.isDigit := by
  induction cs generalizing c with
  | nil => simp
  | cons b cs ih =>
    obtain ⟨hcb, hcs⟩ := List.isChain_cons_cons.1 h
    have hb : c.isDigit = b.isDigit := by simpa [sameKind] using hcb
    intro d hd
    rcases List.mem_cons.1 hd with rfl | hd
    · rfl
    · rw [hb]
      exact ih hcs d hd

/-- In a sequence of runs that change kind from one to the next the runs of digits are the
numerals. -/
theorem numerals_flatten {rs : List (List Char)} (hne : [] ∉ rs)
    (hrun : ∀ g ∈ rs, g.IsChain fun a b => sameKind a b)
    (hcut : rs.IsChain fun a b => ∃ ha hb, sameKind (a.getLast ha) (b.head hb) = false) :
    numerals rs.flatten = rs.filter (·.all Char.isDigit) := by
  induction rs with
  | nil => rfl
  | cons g rs ih =>
    have hrest := ih (fun h => hne (by simp [h])) (fun k hk => hrun k (by simp [hk]))
      (List.IsChain.tail hcut)
    cases g with
    | nil => exact absurd List.mem_cons_self hne
    | cons c g =>
      have hkind := isDigit_eq_of_isChain (hrun (c :: g) List.mem_cons_self)
      rw [List.flatten_cons]
      cases hc : c.isDigit with
      | false =>
        rw [numerals_append_of_not_isDigit (fun d hd => (hkind d hd).trans hc), hrest]
        simp [hc]
      | true =>
        have hdigits : ∀ d ∈ c :: g, d.isDigit = true := fun d hd => (hkind d hd).trans hc
        have hnext : ∀ d ∈ rs.flatten.head?, d.isDigit = false := by
          cases rs with
          | nil => simp
          | cons k rs =>
            obtain ⟨ha, hb, hdiff⟩ := (List.isChain_cons_cons.1 hcut).1
            have hlast := hdigits _ (List.getLast_mem ha)
            cases k with
            | nil => exact absurd rfl hb
            | cons d k => simpa [sameKind, hlast] using hdiff
        rw [numerals_append_of_isDigit (List.cons_ne_nil c g) hdigits hnext, hrest,
          List.filter_cons_of_pos (by simpa using hdigits)]

def runs (cs : List Char) : List (List Char) := cs.splitBy sameKind

theorem digitRuns_eq (s : String) : digitRuns s = (runs s.toList).map String.ofList := rfl

theorem flatten_runs (cs : List Char) : (runs cs).flatten = cs := List.flatten_splitBy _ _

theorem numerals_eq_filter_runs (cs : List Char) :
    numerals cs = (runs cs).filter (·.all Char.isDigit) := by
  conv_lhs => rw [← flatten_runs cs]
  exact numerals_flatten (List.nil_notMem_splitBy _ _)
    (fun _ hg => List.isChain_of_mem_splitBy hg) (List.isChain_getLast_head_splitBy _ _)

theorem ne_nil_of_mem_runs {cs g : List Char} (hg : g ∈ runs cs) : g ≠ [] :=
  List.ne_nil_of_mem_splitBy hg

theorem join_digitRuns (s : String) : String.join (digitRuns s) = s := by
  apply String.toList_injective
  rw [digitRuns_eq, String.toList_join, List.flatMap_map]
  simpa using flatten_runs s.toList

/-- No leading zero, unless the numeral is a single zero. -/
def isPlain (run : List Char) : Bool := run == ['0'] || run.head? != some '0'

def number (run : List Char) : Nat := Nat.ofDigitChars 10 run 0

theorem natOfDigits?_of_isDigit {run : List Char} (hne : run ≠ [])
    (hrun : ∀ c ∈ run, c.isDigit = true) : natOfDigits? run = some (number run) := by
  have hall : run.all Char.isDigit = true := List.all_eq_true.2 hrun
  simp [natOfDigits?, number, Nat.ofDigitChars_eq_foldl, hne, hall]

theorem natOfDigits?_of_mem_not_isDigit {run : List Char} {c : Char} (hc : c ∈ run)
    (hdigit : c.isDigit = false) : natOfDigits? run = none := by
  have hall : run.all Char.isDigit = false := List.all_eq_false.2 ⟨c, hc, by simp [hdigit]⟩
  simp [natOfDigits?, hall]

theorem digitChar_sub_of_isDigit {c : Char} (hc : c.isDigit = true) :
    c.toNat - '0'.toNat < 10 ∧ (c.toNat - '0'.toNat).digitChar = c := by
  obtain ⟨hlo, hhi⟩ := Char.isDigit_iff_toNat.1 hc
  change 48 ≤ c.toNat at hlo
  change c.toNat ≤ 57 at hhi
  have hlt : c.toNat - 48 < 10 := by omega
  refine ⟨hlt, Char.toNat_inj.1 ?_⟩
  change (c.toNat - 48).digitChar.toNat = c.toNat
  rw [Nat.toNat_digitChar_of_lt_ten hlt]
  omega

/-- Digits behind a number that is not zero are written behind its own digits. -/
theorem toDigits_ofDigitChars {run : List Char} (hrun : ∀ c ∈ run, c.isDigit = true) {n : Nat}
    (hn : 0 < n) : Nat.toDigits 10 (Nat.ofDigitChars 10 run n) = Nat.toDigits 10 n ++ run := by
  induction run generalizing n with
  | nil => simp
  | cons c run ih =>
    obtain ⟨hlt, hchar⟩ := digitChar_sub_of_isDigit (hrun c (by simp))
    have hstep := Nat.toDigits_append_toDigits (by decide : 1 < 10) hn hlt
    rw [Nat.toDigits_of_lt_base hlt, hchar] at hstep
    rw [Nat.ofDigitChars_cons, ih (fun d hd => hrun d (by simp [hd])) (by omega), ← hstep,
      List.append_assoc]
    rfl

/-- A numeral without leading zero is the decimal form of its number. -/
theorem toDigits_number {run : List Char} (hne : run ≠ []) (hrun : ∀ c ∈ run, c.isDigit = true)
    (hplain : isPlain run = true) : Nat.toDigits 10 (number run) = run := by
  cases run with
  | nil => exact absurd rfl hne
  | cons c run =>
    obtain ⟨hlt, hchar⟩ := digitChar_sub_of_isDigit (hrun c (by simp))
    have hnumber : number (c :: run) = Nat.ofDigitChars 10 run (c.toNat - '0'.toNat) := by
      simp [number, Nat.ofDigitChars_cons]
    by_cases hzero : c = '0'
    · subst hzero
      have hnil : run = [] := by simpa [isPlain] using hplain
      subst hnil
      rfl
    · have hpos : 0 < c.toNat - '0'.toNat := by
        rw [Nat.pos_iff_ne_zero]
        intro h
        rw [h] at hchar
        exact hzero hchar.symm
      rw [hnumber, toDigits_ofDigitChars (fun d hd => hrun d (by simp [hd])) hpos,
        Nat.toDigits_of_lt_base hlt, hchar]
      rfl

end ElementSync.Text
