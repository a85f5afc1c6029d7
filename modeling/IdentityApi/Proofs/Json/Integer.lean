import IdentityApi.Proofs.Json.Assembly
import IdentityApi.Proofs.Json.Free

/-! # Texts of integers

An integer has one text, up to blanks: its decimal digits without needless zeros, behind a minus when
it is negative (`isText_integer_iff`). All other numbers are no integers, be it for a fraction, for an
exponent, for their size or because they are a negative zero.
-/
namespace IdentityApi.Json

open Reader

/-! ## Digits -/

/-- The number that digits stand for, behind the number of those before them. -/
def valueOfDigits (n : Nat) (ds : List Nat) : Nat := ds.foldl (fun n d => n * 10 + d) n

/-- Digits behind a positive number go on with its own. -/
theorem toDigits_append {n : Nat} (hn : 0 < n) {ds : List Nat} (hds : ∀ d ∈ ds, d < 10) :
    Nat.toDigits 10 n ++ ds.map Nat.digitChar = Nat.toDigits 10 (valueOfDigits n ds) := by
  induction ds generalizing n with
  | nil => exact List.append_nil _
  | cons d ds ih =>
    obtain ⟨hd, hds⟩ := List.forall_mem_cons.mp hds
    have hstep : Nat.toDigits 10 n ++ [d.digitChar] = Nat.toDigits 10 (n * 10 + d) := by
      have := Nat.toDigits_append_toDigits (b := 10) (by decide) hn hd
      rwa [Nat.toDigits_of_lt_base hd, Nat.mul_comm] at this
    rw [List.map_cons, List.append_cons, hstep, ih (by omega) hds]
    rfl

/-- Decimal digits without a needless zero in front. -/
structure AreReduced (ds : List Nat) : Prop where
  ne_nil : ds ≠ []
  lt : ∀ d ∈ ds, d < 10
  zero : ∀ d rest, ds ≠ 0 :: d :: rest

theorem AreReduced.toDigits_eq {ds : List Nat} (h : AreReduced ds) :
    Nat.toDigits 10 (valueOfDigits 0 ds) = ds.map Nat.digitChar := by
  obtain ⟨d, rest, rfl⟩ := List.exists_cons_of_ne_nil h.ne_nil
  obtain ⟨hd, hrest⟩ := List.forall_mem_cons.mp h.lt
  have hvalue : valueOfDigits 0 (d :: rest) = valueOfDigits d rest := by
    rw [valueOfDigits, List.foldl_cons, Nat.zero_mul, Nat.zero_add]
    rfl
  rw [hvalue]
  rcases Nat.eq_zero_or_pos d with rfl | hpos
  · cases rest with
    | nil => rfl
    | cons c rest => exact absurd rfl (h.zero c rest)
  · rw [← toDigits_append hpos hrest, Nat.toDigits_of_lt_base hd]
    rfl

namespace Literal

theorem gather_eq_nil {n m : Nat} {ds : List Nat} (h : gather n ds = (m, [])) :
    m = valueOfDigits n ds := by
  induction ds generalizing n with
  | nil =>
    cases h
    rfl
  | cons d ds ih =>
    rw [gather] at h
    split_ifs at h
    · exact ih h
    · cases h

/-- What a literal of an integer is made of. -/
theorem exists_digits_of_number {l : Literal} {n : Int} (h : l.number = some (.integer n)) :
    l.fraction = none ∧ l.exponent = none ∧
      whole? l.negative (valueOfDigits 0 l.whole) = .integer n := by
  unfold number at h
  cases hgather : gather 0 l.whole with
  | mk m left =>
    simp only [hgather] at h
    split_ifs at h with hplain
    · obtain ⟨rfl, hfraction, hexponent⟩ := hplain
      rw [← gather_eq_nil hgather]
      exact ⟨hfraction, hexponent, Option.some.inj h⟩
    · obtain ⟨x, -, hx⟩ := Option.map_eq_some_iff.mp h
      cases hx

end Literal

namespace Reader

/-- An octet that is a digit is the text of its value. -/
theorem encodeChar_digitChar {b : UInt8} (h : isDigit b = true) :
    digitValue b < 10 ∧ Utf8.encodeChar (digitValue b).digitChar = [b] := by
  have hbounds := Integer.toNat_of_isDigit h
  rw [toNat_char] at hbounds
  have hdef : digitValue b = b.toNat - 48 := rfl
  have hvalue : digitValue b < 10 := by omega
  have hchar : (digitValue b).digitChar.toNat = b.toNat := by
    have hback := digitOf_digitChar hvalue
    have hdigit := Integer.toNat_of_isDigit (Integer.isDigit_of_mem_toDigits
      (Nat.toDigits_of_lt_base hvalue ▸ List.mem_singleton_self _))
    rw [digitOf] at hback
    omega
  refine ⟨hvalue, ?_⟩
  rw [Utf8.encodeChar_of_lt (by omega), hchar, UInt8.ofNat_toNat]

theorem encode_digits {ds : Octets} (h : ∀ b ∈ ds, isDigit b = true) :
    Utf8.encode ((ds.map digitValue).map Nat.digitChar) = ds := by
  induction ds with
  | nil => rfl
  | cons b ds ih =>
    obtain ⟨hb, hds⟩ := List.forall_mem_cons.mp h
    rw [List.map_cons, List.map_cons, Utf8.encode_cons, (encodeChar_digitChar hb).2, ih hds]
    rfl

/-! ## Literals of integers -/

/-- The digits before a point have no needless zero. -/
theorem wholePart_eq_ok {s r : Octets} {ds : List Nat} (h : wholePart s = .ok (ds, r)) :
    AreReduced ds ∧ s = Utf8.encode (ds.map Nat.digitChar) ++ r := by
  rw [wholePart] at h
  split at h
  · cases h
  next hzero =>
    obtain ⟨hdigits, hne⟩ := someDigits_eq_ok_iff.mp h
    rw [digits] at hdigits
    cases hdigits
    have hall : ∀ b ∈ s.takeWhile isDigit, isDigit b = true := fun b => List.mem_takeWhile_imp
    refine ⟨⟨hne, ?_, ?_⟩, ?_⟩
    · intro d hd
      obtain ⟨b, hb, rfl⟩ := List.mem_map.mp hd
      exact (encodeChar_digitChar (hall b hb)).1
    · rintro d rest heq
      exact hzero d rest _ (h.trans (by rw [heq]))
    · rw [encode_digits hall, List.takeWhile_append_dropWhile]

theorem fractionPart_none {s r : Octets} (h : fractionPart s = .ok (none, r)) : s = r := by
  cases s with
  | nil =>
    cases h
    rfl
  | cons b s =>
    rw [fractionPart] at h
    split_ifs at h
    · obtain ⟨found, -, hfound⟩ := ok_of_map h
      cases hfound
    · cases h
      rfl

theorem exponentPart_none {s r : Octets} (h : exponentPart s = .ok (none, r)) : s = r := by
  cases s with
  | nil =>
    cases h
    rfl
  | cons b s =>
    simp only [exponentPart] at h
    by_cases hb : char b = 'e' ∨ char b = 'E'
    · rw [if_pos hb] at h
      obtain ⟨found, -, hfound⟩ := ok_of_map h
      cases hfound
    · rw [if_neg hb] at h
      cases h
      rfl

theorem literal_cons (b : UInt8) (s : Octets) :
    literal (b :: s) = if char b = '-' then unsigned true s else unsigned false (b :: s) := by
  rw [unsigned_eq, unsigned_eq, literal]
  split_ifs <;> rfl

/-- A literal of an integer behind its sign. -/
theorem unsigned_of_integer {negative : Bool} {s r : Octets} {l : Literal} {n : Int}
    (h : unsigned negative s = .ok (l, r)) (hn : l.number = some (.integer n)) :
    l.negative = negative ∧
      s = Utf8.encode (Nat.toDigits 10 (valueOfDigits 0 l.whole)) ++ r := by
  obtain ⟨hfraction, hexponent, -⟩ := Literal.exists_digits_of_number hn
  obtain ⟨⟨whole, s₁⟩, hwhole, h⟩ := ok_of_bind h
  obtain ⟨⟨fraction, s₂⟩, hs₂, h⟩ := ok_of_bind h
  obtain ⟨⟨exponent, s₃⟩, hs₃, h⟩ := ok_of_bind h
  cases h
  subst hfraction hexponent
  obtain rfl := fractionPart_none hs₂
  obtain rfl := exponentPart_none hs₃
  obtain ⟨hreduced, hs⟩ := wholePart_eq_ok hwhole
  exact ⟨rfl, hreduced.toDigits_eq ▸ hs⟩

/-- A number is read from a literal. -/
theorem literal_of_leaf {b : UInt8} {s r : Octets} {n : Number}
    (h : leaf? b s = some (.number (.ok n), some r)) :
    ∃ l, literal (b :: s) = .ok (l, r) ∧ l.number = some n := by
  unfold leaf? at h
  dsimp only at h
  split at h
  · split at h <;> cases h
  · split at h <;> cases h
  · split at h <;> cases h
  · split at h <;> cases h
  · split_ifs at h with hc
    split at h
    · cases h
    next l rest hliteral =>
      split at h
      next hnumber =>
        cases h
        exact ⟨l, hliteral, hnumber⟩
      next => cases h

/-- A literal of an integer is its text. -/
theorem literal_of_integer {b : UInt8} {s r : Octets} {l : Literal} {n : Int}
    (h : literal (b :: s) = .ok (l, r)) (hn : l.number = some (.integer n)) :
    b :: s = octetsOf n.repr ++ r := by
  obtain ⟨-, -, hwhole⟩ := Literal.exists_digits_of_number hn
  rw [Literal.whole?] at hwhole
  rw [literal_cons] at h
  split_ifs at h with hminus
  · obtain ⟨hnegative, hs⟩ := unsigned_of_integer h hn
    rw [if_pos hnegative] at hwhole
    split_ifs at hwhole with hbounds
    obtain ⟨m, hm⟩ := Nat.exists_eq_succ_of_ne_zero (Nat.ne_of_gt hbounds.1)
    rw [hm] at hwhole hs
    cases hwhole
    have hrepr : octetsOf (Int.repr (-((m + 1 : Nat) : Int))) =
        45 :: Utf8.encode (Nat.toDigits 10 (m + 1)) :=
      congrArg Utf8.encode (Integer.toList_repr_negSucc m)
    rw [eq_of_char (d := 45) hminus, hs]
    exact (congrArg (· ++ r) hrepr).symm
  · obtain ⟨hnegative, hs⟩ := unsigned_of_integer h hn
    rw [hnegative, if_neg Bool.false_ne_true] at hwhole
    cases hwhole
    rw [hs]
    exact congrArg (Utf8.encode · ++ r) (Integer.toList_repr_ofNat _).symm

end Reader

theorem Reader.Forms.exists_leaf {s r : Octets} {n : Except Fault Number}
    (h : Forms s (.number n) r) : ∃ b t, s = b :: t ∧ leaf? b t = some (.number n, some r) := by
  cases h with
  | leaf h => exact ⟨_, _, rfl, h⟩

theorem isBlank_takeWhile (s : Octets) : IsBlank (s.takeWhile Reader.isBlank) := by
  rw [IsBlank, skipBlanks, List.dropWhile_eq_nil_iff]
  exact fun b => List.mem_takeWhile_imp

/-- The text of an integer, with any blanks around it. -/
inductive IsIntegerText (n : Int) : Octets → Prop
  | intro {before after : Octets} : IsBlank before → IsBlank after →
    IsIntegerText n (before ++ (octetsOf n.repr ++ after))

/-- A text is read as an integer exactly if it is the integer's own, which fits 64 bits. -/
theorem isText_integer_iff {s : Octets} {n : Int} :
    IsText s (.number (.ok (.integer n))) ↔ IsIntegerText n s ∧ Fits n := by
  constructor
  · rintro ⟨r, hforms, hr⟩
    obtain ⟨b, t, hs, hleaf⟩ := hforms.exists_leaf
    obtain ⟨l, hliteral, hnumber⟩ := literal_of_leaf hleaf
    refine ⟨?_, Literal.fits_of_number hnumber⟩
    have hsplit : s = s.takeWhile Reader.isBlank ++ (octetsOf n.repr ++ r) := by
      rw [← literal_of_integer hliteral hnumber, ← hs, skipBlanks, List.takeWhile_append_dropWhile]
    rw [hsplit]
    exact .intro (isBlank_takeWhile s) hr
  · rintro ⟨@⟨before, after, hbefore, hafter⟩, hfits⟩
    have hnone : skipBlanks after = [] := hafter
    have hends : EndsNumber after := endsNumber_of_skipBlanks (by simp [hnone])
    obtain ⟨b, t, htext, hleaf⟩ := exists_leaf_number (n := .integer n) hfits hends
    have htext : octetsOf n.repr ++ after = b :: t := htext
    refine ⟨after, ?_, hafter⟩
    rw [hbefore.skipBlanks_append, htext, skipBlanks_cons (starts_of_leaf hleaf).notBlank]
    exact .leaf hleaf

end IdentityApi.Json
