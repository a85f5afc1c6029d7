import IdentityApi.Proofs.Text.Percent
import IdentityApi.Text.Basic
import Mathlib

/-! # Blanks and numbers in texts

Trimming takes the blanks at both ends of a text and nothing else: the text stands between blanks
(`exists_eq_trimBlanks`), and what holds no blank is all that is left between them
(`trimBlanks_append`). A natural number is written in decimal digits, an integer in digits behind a
minus when it is negative. Reading takes decimal digits with any zeros and perhaps a plus in front,
up to a greatest number (`natural_eq_ok_iff`).
-/
namespace IdentityApi

/-! ## Texts between blanks -/

theorem isBlank_of_isDigit {c : Char} (h : c.isDigit = true) : isBlank c = false := by
  have hascii : c.toNat < 128 := Nat.lt_of_le_of_lt (Char.isDigit_iff_toNat.mp h).2 (by decide)
  have := of_ascii (p := Char.isDigit) (q := fun c => !isBlank c) (by decide) hascii h
  simpa using this

theorem dropBlanks_cons {c : Char} (h : isBlank c = false) (s : List Char) :
    dropBlanks (c :: s) = c :: s := by
  rw [dropBlanks, List.dropWhile_cons_of_neg (by simp [h])]

theorem dropBlanks_append {w : List Char} (hw : ∀ c ∈ w, isBlank c = true) (s : List Char) :
    dropBlanks (w ++ s) = dropBlanks s := by
  rw [dropBlanks, List.dropWhile_append, List.dropWhile_eq_nil_iff.mpr hw]
  rfl

theorem exists_eq_trimBlanks (s : List Char) : ∃ before after,
    (∀ c ∈ before, isBlank c = true) ∧ (∀ c ∈ after, isBlank c = true) ∧
      s = before ++ (trimBlanks s ++ after) := by
  refine ⟨s.takeWhile isBlank, ((dropBlanks s).reverse.takeWhile isBlank).reverse,
    fun c => List.mem_takeWhile_imp, fun c hc => ?_, ?_⟩
  · exact List.mem_takeWhile_imp (List.mem_reverse.mp hc)
  · have hback : (dropBlanks s).reverse.takeWhile isBlank ++ dropBlanks (dropBlanks s).reverse =
        (dropBlanks s).reverse := List.takeWhile_append_dropWhile
    rw [trimBlanks, ← List.reverse_append, hback, List.reverse_reverse]
    exact List.takeWhile_append_dropWhile.symm

theorem trimBlanks_append {before s after : List Char} (hbefore : ∀ c ∈ before, isBlank c = true)
    (hafter : ∀ c ∈ after, isBlank c = true) (hs : ∀ c ∈ s, isBlank c = false) (hne : s ≠ []) :
    trimBlanks (before ++ (s ++ after)) = s := by
  have hkept : ∀ {s : List Char}, (∀ c ∈ s, isBlank c = false) → s ≠ [] → ∀ r,
      dropBlanks (s ++ r) = s ++ r := by
    intro s hs hne r
    obtain ⟨c, s, rfl⟩ := List.exists_cons_of_ne_nil hne
    exact dropBlanks_cons (hs c List.mem_cons_self) _
  have hback : dropBlanks s.reverse = s.reverse := by
    simpa using hkept (s := s.reverse) (by simpa using hs) (by simpa using hne) []
  rw [trimBlanks, dropBlanks_append hbefore, hkept hs hne, List.reverse_append,
    dropBlanks_append (by simpa using hafter), hback, List.reverse_reverse]

/-! ## The characters of integers -/

namespace Integer

theorem toNat_of_isDigit {c : Char} (h : c.isDigit = true) : 48 ≤ c.toNat ∧ c.toNat ≤ 57 :=
  Char.isDigit_iff_toNat.mp h

theorem isDigit_of_mem_toDigits {n : Nat} {c : Char} (h : c ∈ Nat.toDigits 10 n) :
    c.isDigit = true :=
  Nat.isDigit_of_mem_toDigits (by decide) (by decide) h

theorem exists_digit_mem_toDigits (n : Nat) : ∃ c ∈ Nat.toDigits 10 n, c.isDigit = true := by
  obtain ⟨c, hc⟩ := List.exists_mem_of_ne_nil _ (Nat.toDigits_ne_nil (b := 10) (n := n))
  exact ⟨c, hc, isDigit_of_mem_toDigits hc⟩

theorem toList_repr_ofNat (n : Nat) : (Int.ofNat n).repr.toList = Nat.toDigits 10 n :=
  Nat.toList_repr

theorem toList_repr_negSucc (n : Nat) :
    (Int.negSucc n).repr.toList = '-' :: Nat.toDigits 10 (n + 1) := by
  simp [Int.repr, Nat.toList_repr]

/-- An integer is written with hyphens and digits. -/
theorem eq_or_isDigit_of_mem_repr {n : Int} {c : Char} (h : c ∈ n.repr.toList) :
    c = '-' ∨ c.isDigit = true := by
  cases n with
  | ofNat m =>
    rw [toList_repr_ofNat] at h
    exact Or.inr (isDigit_of_mem_toDigits h)
  | negSucc m =>
    rw [toList_repr_negSucc] at h
    exact (List.mem_cons.mp h).imp_right isDigit_of_mem_toDigits

/-- An integer is written with at least one digit. -/
theorem exists_digit_mem_repr (n : Int) : ∃ c ∈ n.repr.toList, c.isDigit = true := by
  cases n with
  | ofNat m =>
    rw [toList_repr_ofNat]
    exact exists_digit_mem_toDigits m
  | negSucc m =>
    obtain ⟨c, hc, hd⟩ := exists_digit_mem_toDigits (m + 1)
    rw [toList_repr_negSucc]
    exact ⟨c, List.mem_cons_of_mem _ hc, hd⟩

/-! ### Reading decimal digits -/

/-- Decimal digits that stand for the number; zeros may stand in front. -/
structure IsNumeral (n : Nat) (ds : List Char) : Prop where
  ne_nil : ds ≠ []
  isDigit : ∀ c ∈ ds, c.isDigit = true
  value : Nat.ofDigitChars 10 ds 0 = n

variable {high n m : Nat} {s : List Char}

theorem ofDigitChars_cons (c : Char) :
    Nat.ofDigitChars 10 (c :: s) n = Nat.ofDigitChars 10 s (n * 10 + (c.toNat - 48)) := by
  rw [Nat.ofDigitChars_cons, Nat.mul_comm]
  rfl

theorem le_ofDigitChars : n ≤ Nat.ofDigitChars 10 s n := by
  induction s generalizing n with
  | nil => exact le_of_eq (Nat.ofDigitChars_nil).symm
  | cons c s ih =>
    rw [ofDigitChars_cons]
    exact le_trans (by omega) ih

theorem digits_eq_ok_iff (hn : n ≤ high) : digits high n s = .ok m ↔
    (∀ c ∈ s, c.isDigit = true) ∧ Nat.ofDigitChars 10 s n = m ∧ m ≤ high := by
  induction s generalizing n with
  | nil =>
    rw [digits, Nat.ofDigitChars_nil, Except.ok.injEq]
    constructor
    · rintro rfl
      exact ⟨by simp, rfl, hn⟩
    · exact fun h => h.2.1
  | cons c s ih =>
    rw [digits, List.forall_mem_cons, ofDigitChars_cons]
    by_cases hc : c.isDigit = true
    · simp only [hc, Bool.not_true, Bool.false_eq_true, if_false, true_and]
      split_ifs with hlarge
      · constructor
        · nofun
        · rintro ⟨-, rfl, hm⟩
          exact absurd (le_trans le_ofDigitChars hm) (by omega)
      · exact ih (by omega)
    · simp [hc]

/-- A number may have a plus in front of its digits. -/
theorem natural_eq_ok_iff : natural high s = .ok n ↔
    ∃ ds, (s = ds ∨ s = '+' :: ds) ∧ IsNumeral n ds ∧ n ≤ high := by
  have hdigits : ∀ {s : List Char}, s ≠ [] →
      (digits high 0 s = .ok n ↔ IsNumeral n s ∧ n ≤ high) := by
    intro s hs
    rw [digits_eq_ok_iff (Nat.zero_le high)]
    exact ⟨fun ⟨hdigit, hvalue, hle⟩ => ⟨⟨hs, hdigit, hvalue⟩, hle⟩,
      fun ⟨h, hle⟩ => ⟨h.isDigit, h.value, hle⟩⟩
  have hplus : ¬ ('+' : Char).isDigit = true := by decide
  fun_cases natural high s with
  | case1 =>
    constructor
    · nofun
    · rintro ⟨ds, rfl | ⟨⟨⟩⟩, h, -⟩
      exact absurd rfl h.ne_nil
  | case2 =>
    constructor
    · nofun
    · rintro ⟨ds, rfl | h, hds, -⟩
      · exact absurd (hds.isDigit '+' List.mem_cons_self) hplus
      · exact absurd (List.cons.inj h).2.symm hds.ne_nil
  | case3 r hr =>
    rw [hdigits (by simpa using hr)]
    constructor
    · exact fun h => ⟨r, Or.inr rfl, h⟩
    · rintro ⟨ds, rfl | h, hds, hle⟩
      · exact absurd (hds.isDigit '+' List.mem_cons_self) hplus
      · exact (List.cons.inj h).2 ▸ ⟨hds, hle⟩
  | case4 _ hne _ hfirst =>
    rw [hdigits hne]
    constructor
    · exact fun h => ⟨s, Or.inl rfl, h⟩
    · rintro ⟨ds, rfl | rfl, hds⟩
      · exact hds
      · exact absurd rfl (hfirst ds)

end Integer

end IdentityApi
