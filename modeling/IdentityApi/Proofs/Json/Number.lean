import IdentityApi.Proofs.Json.Text
import IdentityApi.Proofs.Text.Basic

/-! # Integers are read back as they were written

An integer is written in decimal digits without leading zeros. Read as a literal it has no fraction
and no exponent, and as long as it fits 64 bits its digits gather to the integer
(`literal_integer`).
-/
namespace IdentityApi.Json

/-- The integers of 64 bits, signed or not. -/
def Fits (n : Int) : Prop := -0x8000000000000000 ≤ n ∧ n < 0x10000000000000000

/-! ## Digits -/

/-- What a decimal digit stands for. -/
def digitOf (c : Char) : Nat := c.toNat - 48

theorem digitOf_digitChar {n : Nat} (h : n < 10) : digitOf n.digitChar = n :=
  Nat.toNat_digitChar_sub_48_of_lt_ten h

/-- A positive number does not begin with a zero. -/
theorem head?_toDigits_ne {n : Nat} (h : 0 < n) : (Nat.toDigits 10 n).head? ≠ some '0' := by
  induction n using Nat.strongRecOn with
  | ind n ih =>
    by_cases hn : n < 10
    · rw [Nat.toDigits_of_lt_base hn]
      simpa using Nat.pos_iff_ne_zero.mp h
    · have hstep := Nat.toDigits_of_base_le (b := 10) (by decide) (Nat.not_lt.mp hn)
      rw [hstep, List.head?_append_of_ne_nil _ Nat.toDigits_ne_nil]
      exact ih (n / 10) (by omega) (by omega)

/-- Decimal digits, of which there is at least one. -/
structure AreDigits (ds : List Char) : Prop where
  ne_nil : ds ≠ []
  isDigit : ∀ c ∈ ds, c.isDigit = true

/-- Decimal digits without a needless zero in front. -/
structure AreReducedDigits (ds : List Char) : Prop extends AreDigits ds where
  zero : ∀ c rest, ds ≠ '0' :: c :: rest

theorem areDigits_toDigits (n : Nat) : AreDigits (Nat.toDigits 10 n) :=
  ⟨Nat.toDigits_ne_nil, fun _ => Integer.isDigit_of_mem_toDigits⟩

theorem areReducedDigits_toDigits (n : Nat) : AreReducedDigits (Nat.toDigits 10 n) := by
  refine ⟨areDigits_toDigits n, fun c rest heq => ?_⟩
  rcases Nat.eq_zero_or_pos n with rfl | hn
  · cases heq
  · exact head?_toDigits_ne hn (by rw [heq]; rfl)

namespace Literal

theorem gather_append {n m : Nat} {ds : List Nat} (h : gather n ds = (m, [])) (es : List Nat) :
    gather n (ds ++ es) = gather m es := by
  induction ds generalizing n with
  | nil =>
    cases h
    rfl
  | cons d ds ih =>
    rw [gather] at h
    split at h
    next hfits => rw [List.cons_append, gather, if_pos hfits, ih h]
    next => cases h

theorem gather_toDigits {n : Nat} (h : n < UInt64.size) :
    gather 0 ((Nat.toDigits 10 n).map digitOf) = (n, []) := by
  induction n using Nat.strongRecOn with
  | ind n ih =>
    by_cases hn : n < 10
    · rw [Nat.toDigits_of_lt_base hn, List.map_singleton, digitOf_digitChar hn, gather,
        if_pos (by omega), gather]
      simp
    · have hlast : n / 10 * 10 + n % 10 = n := by omega
      have hfront := ih (n / 10) (by omega) (by omega)
      have hstep := Nat.toDigits_of_base_le (b := 10) (by decide) (Nat.not_lt.mp hn)
      rw [hstep, List.map_append, gather_append hfront, List.map_singleton,
        digitOf_digitChar (Nat.mod_lt n (by decide)), gather, hlast, if_pos h, gather]

/-- The number of a literal that is made of the digits of a natural number. -/
theorem number_of_digits {negative : Bool} {n : Nat} (h : n < UInt64.size) :
    number ⟨negative, (Nat.toDigits 10 n).map digitOf, none, none⟩ = some (whole? negative n) := by
  simp only [number, gather_toDigits h, and_self, if_true]

end Literal

namespace Reader

theorem encodeChar_of_isDigit {c : Char} (h : c.isDigit = true) :
    Utf8.encodeChar c = [.ofNat c.toNat] :=
  Utf8.encodeChar_of_lt (by have := Integer.toNat_of_isDigit h; omega)

theorem char_digit {c : Char} (h : c.isDigit = true) : char (.ofNat c.toNat) = c :=
  char_octet (by have := Integer.toNat_of_isDigit h; omega)

/-- No digit follows, and nothing that goes on with a number behind its digits. -/
def EndsNumber (r : Octets) : Prop :=
  ∀ b ∈ r.head?, isDigit b = false ∧ char b ≠ '.' ∧ char b ≠ 'e' ∧ char b ≠ 'E'

/-- No digit follows. -/
def EndsDigits (r : Octets) : Prop := ∀ b ∈ r.head?, isDigit b = false

theorem EndsNumber.endsDigits {r : Octets} (h : EndsNumber r) : EndsDigits r :=
  fun b hb => (h b hb).1

theorem digits_encode {ds : List Char} (hds : ∀ c ∈ ds, c.isDigit = true) {r : Octets}
    (hr : EndsDigits r) : digits (Utf8.encode ds ++ r) = (ds.map digitOf, r) := by
  have hdrop : r.takeWhile isDigit = [] ∧ r.dropWhile isDigit = r := by
    cases r with
    | nil => exact ⟨rfl, rfl⟩
    | cons b r =>
      have hb : isDigit b = false := hr b rfl
      simp [hb]
  rw [digits]
  induction ds with
  | nil => simp [hdrop]
  | cons c ds ih =>
    have hc := hds c List.mem_cons_self
    have hdigit : isDigit (.ofNat c.toNat) = true := by rwa [isDigit, char_digit hc]
    have hvalue : digitValue (.ofNat c.toNat) = digitOf c := by
      rw [digitValue, digitOf, Utf8.toNat_octet (by have := Integer.toNat_of_isDigit hc; omega)]
    have hrest := ih fun d hd => hds d (List.mem_cons_of_mem c hd)
    rw [Prod.mk.injEq] at hrest ⊢
    rw [Utf8.encode_cons, encodeChar_of_isDigit hc, List.cons_append, List.nil_append,
      List.cons_append, List.takeWhile_cons_of_pos hdigit, List.dropWhile_cons_of_pos hdigit,
      List.map_cons, hrest.1, hvalue, List.map_cons]
    exact ⟨rfl, hrest.2⟩

theorem someDigits_encode {ds : List Char} (hds : AreDigits ds) {r : Octets}
    (hr : EndsDigits r) : someDigits (Utf8.encode ds ++ r) = .ok (ds.map digitOf, r) := by
  have hne : ds.map digitOf ≠ [] := by simpa using hds.ne_nil
  rw [someDigits, digits_encode hds.isDigit hr]
  split
  next h => exact absurd (Prod.mk.inj h).1 hne
  next h => exact absurd (Prod.mk.inj h).1 hne
  next => rfl

theorem wholePart_encode {ds : List Char} (hds : AreReducedDigits ds) {r : Octets}
    (hr : EndsDigits r) : wholePart (Utf8.encode ds ++ r) = .ok (ds.map digitOf, r) := by
  rw [wholePart, someDigits_encode hds.toAreDigits hr]
  split
  next heq =>
    exfalso
    have hdigits := (Prod.mk.inj (Except.ok.inj heq)).1
    obtain ⟨c, cs, rfl, hc, hcs⟩ := List.map_eq_cons_iff.mp hdigits
    obtain ⟨d, rest, rfl, -, -⟩ := List.map_eq_cons_iff.mp hcs
    have hzero : c = '0' := by
      refine Char.toNat_inj.mp ?_
      have := Integer.toNat_of_isDigit (hds.isDigit c List.mem_cons_self)
      rw [digitOf] at hc
      change c.toNat = 48
      omega
    exact hds.zero d rest (hzero ▸ rfl)
  next => rfl

theorem wholePart_toDigits (n : Nat) {r : Octets} (hr : EndsNumber r) :
    wholePart (Utf8.encode (Nat.toDigits 10 n) ++ r) =
      .ok ((Nat.toDigits 10 n).map digitOf, r) :=
  wholePart_encode (areReducedDigits_toDigits n) hr.endsDigits

/-- Behind the digits there is no fraction and no exponent. -/
theorem fractionPart_of_ends {r : Octets} (hr : EndsNumber r) :
    fractionPart r = .ok (none, r) := by
  cases r with
  | nil => rfl
  | cons b r =>
    obtain ⟨-, hpoint, -⟩ := hr b rfl
    exact if_neg hpoint

theorem exponentPart_of_ends {r : Octets} (hr : EndsNumber r) :
    exponentPart r = .ok (none, r) := by
  cases r with
  | nil => rfl
  | cons b r =>
    obtain ⟨-, -, he, hE⟩ := hr b rfl
    exact if_neg (by simp [he, hE])

theorem literal_toDigits (n : Nat) {r : Octets} (hr : EndsNumber r) :
    literal (Utf8.encode (Nat.toDigits 10 n) ++ r) =
      .ok (⟨false, (Nat.toDigits 10 n).map digitOf, none, none⟩, r) := by
  have hwhole := wholePart_toDigits n hr
  cases hchars : Nat.toDigits 10 n with
  | nil => exact absurd hchars Nat.toDigits_ne_nil
  | cons c cs =>
    have hc : c.isDigit = true := Integer.isDigit_of_mem_toDigits (hchars ▸ List.mem_cons_self)
    have hminus : char (.ofNat c.toNat) ≠ '-' := by
      rw [char_digit hc]
      rintro rfl
      cases hc
    rw [hchars] at hwhole
    rw [Utf8.encode_cons, encodeChar_of_isDigit hc] at hwhole ⊢
    simp only [List.cons_append, List.nil_append] at hwhole ⊢
    rw [literal]
    simp only [if_neg hminus, hwhole, fractionPart_of_ends hr, exponentPart_of_ends hr]

theorem literal_minus_toDigits (n : Nat) {r : Octets} (hr : EndsNumber r) :
    literal (45 :: (Utf8.encode (Nat.toDigits 10 n) ++ r)) =
      .ok (⟨true, (Nat.toDigits 10 n).map digitOf, none, none⟩, r) := by
  have hminus : char 45 = '-' := rfl
  rw [literal]
  simp only [if_pos hminus, wholePart_toDigits n hr, fractionPart_of_ends hr,
    exponentPart_of_ends hr]

/-- An integer that fits is read as itself. -/
theorem literal_integer {n : Int} (hn : Fits n) {r : Octets} (hr : EndsNumber r) :
    ∃ l, literal (Utf8.encode (Number.integer n).text ++ r) = .ok (l, r) ∧
      l.number = some (.integer n) := by
  obtain ⟨hlow, hhigh⟩ := hn
  cases n with
  | ofNat m =>
    have hm : m < UInt64.size := by
      rw [UInt64.size]
      have : (m : Int) < 18446744073709551616 := hhigh
      omega
    have htext : (Number.integer (.ofNat m)).text = Nat.toDigits 10 m := Nat.toList_repr
    rw [htext]
    exact ⟨_, literal_toDigits m hr, Literal.number_of_digits hm⟩
  | negSucc m =>
    have hm : m + 1 ≤ 0x8000000000000000 := by omega
    have htext : (Number.integer (.negSucc m)).text = '-' :: Nat.toDigits 10 (m + 1) := by
      simp [Number.text, Int.repr, Nat.toList_repr]
    have hminus : Utf8.encodeChar '-' = [45] := rfl
    rw [htext, Utf8.encode_cons, hminus, List.append_assoc]
    refine ⟨_, literal_minus_toDigits (m + 1) hr, ?_⟩
    rw [Literal.number_of_digits (by rw [UInt64.size]; omega), Literal.whole?, if_pos rfl,
      if_pos ⟨Nat.succ_pos m, hm⟩]
    rfl

end Reader

end IdentityApi.Json
