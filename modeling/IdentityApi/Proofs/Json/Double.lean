import IdentityApi.Proofs.Json.Integer

/-! # Every number is written as one literal

A number is written as digits without a needless zero, perhaps with a fraction, perhaps with an
exponent, and with a minus in front when it is negative. That is so for the shortest decimals of
binary64 numbers in every layout (`isMagnitude_render`). Such a text is read as one number, with
nothing left of it (`exists_leaf_text`).
-/
namespace IdentityApi.Json

open Reader Decimal

/-- What stands between the digits before the point and the exponent. -/
inductive IsFraction : List Char → Prop
  | none : IsFraction []
  | digits {ds : List Char} : AreDigits ds → IsFraction ('.' :: ds)

inductive IsExponent : List Char → Prop
  | none : IsExponent []
  | digits {sign : Char} {ds : List Char} : sign = '+' ∨ sign = '-' → AreDigits ds →
    IsExponent ('e' :: sign :: ds)

/-- A number without its sign. -/
inductive IsMagnitude : List Char → Prop
  | intro {whole fraction exponent : List Char} : AreReducedDigits whole → IsFraction fraction →
    IsExponent exponent → IsMagnitude (whole ++ (fraction ++ exponent))

/-! ## Digits of decimals -/

theorem AreDigits.append {ds es : List Char} (hds : AreDigits ds)
    (hes : ∀ c ∈ es, c.isDigit = true) : AreDigits (ds ++ es) :=
  ⟨by simp [hds.ne_nil], List.forall_mem_append.mpr ⟨hds.isDigit, hes⟩⟩

/-- A zero that stands alone. -/
theorem areReduced_zero : AreReducedDigits ['0'] := areReducedDigits_toDigits 0

theorem isDigit_of_mem_zeros {k : Nat} {c : Char} (h : c ∈ List.replicate k '0') :
    c.isDigit = true := by
  rw [List.eq_of_mem_replicate h]
  rfl

/-- Digits of a positive number, and others behind them. -/
structure AreLeading (ds : List Char) : Prop extends AreDigits ds where
  head? : ds.head? ≠ some '0'

namespace AreLeading

variable {ds es : List Char}

theorem reduced (h : AreLeading ds) : AreReducedDigits ds :=
  ⟨h.toAreDigits, fun c rest heq => h.head? (by rw [heq]; rfl)⟩

theorem append (h : AreLeading ds) (hes : ∀ c ∈ es, c.isDigit = true) : AreLeading (ds ++ es) :=
  ⟨h.toAreDigits.append hes, by rw [List.head?_append_of_ne_nil _ h.ne_nil]; exact h.head?⟩

theorem take (h : AreLeading ds) {k : Nat} (hk : 0 < k) : AreLeading (ds.take k) := by
  obtain ⟨c, rest, rfl⟩ := List.exists_cons_of_ne_nil h.ne_nil
  obtain ⟨k, rfl⟩ := Nat.exists_eq_succ_of_ne_zero hk.ne'
  exact ⟨⟨nofun, fun d hd => h.isDigit d (List.mem_of_mem_take hd)⟩, h.head?⟩

end AreLeading

theorem areLeading_toDigits {n : Nat} (h : n ≠ 0) : AreLeading (Nat.toDigits 10 n) :=
  ⟨areDigits_toDigits n, head?_toDigits_ne (Nat.pos_of_ne_zero h)⟩

theorem stripZeros_ne_zero {fuel n : Nat} (h : n ≠ 0) : (stripZeros fuel n).1 ≠ 0 := by
  induction fuel generalizing n with
  | zero => exact h
  | succ fuel ih =>
    rw [stripZeros]
    split_ifs with hlast
    · exact ih (by omega)
    · exact h

/-! ## Layouts -/

/-- Digits with a point behind so many of them. -/
theorem isMagnitude_point {ds es : List Char} (hds : AreReducedDigits ds) (hes : AreDigits es) :
    IsMagnitude (ds ++ '.' :: es) := by
  have h := IsMagnitude.intro hds (.digits hes) .none
  rwa [List.append_nil] at h

/-- Digits with an exponent, and a point behind the first one if there are others. -/
theorem isMagnitude_scientific {c sign : Char} {rest es : List Char}
    (h : AreLeading (c :: rest)) (hsign : sign = '+' ∨ sign = '-') (hes : AreDigits es) :
    IsMagnitude ((match c :: rest with
      | [] => []
      | [c] => [c]
      | c :: rest => c :: '.' :: rest) ++ 'e' :: sign :: es) := by
  have hfirst : AreReducedDigits [c] := (h.take Nat.one_pos).reduced
  cases rest with
  | nil => exact .intro hfirst .none (.digits hsign hes)
  | cons d rest =>
    have hrest : AreDigits (d :: rest) :=
      ⟨nofun, fun e he => h.isDigit e (List.mem_cons_of_mem c he)⟩
    exact .intro hfirst (.digits hrest) (.digits hsign hes)

/-- A decimal is written as one number in every layout. -/
theorem isMagnitude_render (layout : Layout) {d : Decimal} (h : d.digits ≠ 0) :
    IsMagnitude (render layout d) := by
  rw [render]
  cases hstrip : stripZeros d.digits.repr.length d.digits with
  | mk n zeros =>
    have hn : n ≠ 0 := by
      have hne : (stripZeros d.digits.repr.length d.digits).1 ≠ 0 := stripZeros_ne_zero h
      rwa [hstrip] at hne
    have hleading : AreLeading n.repr.toList := by
      rw [Nat.toList_repr]
      exact areLeading_toDigits hn
    dsimp only
    generalize n.repr.toList = ds at hleading
    by_cases hplace : layout.least ≤ d.exponent + zeros + ds.length - 1 ∧
        d.exponent + zeros + ds.length - 1 ≤ layout.greatest
    · rw [if_pos hplace]
      cases d.exponent + (zeros : Int) with
      | ofNat k =>
        have hall : AreLeading (ds ++ List.replicate k '0') :=
          hleading.append fun _ => isDigit_of_mem_zeros
        exact isMagnitude_point hall.reduced ⟨nofun, by simp⟩
      | negSucc k =>
        dsimp only
        split_ifs with hwhole
        · -- the point stands between two digits
          refine isMagnitude_point (hleading.take hwhole).reduced ⟨?_, ?_⟩
          · rw [ne_eq, List.drop_eq_nil_iff]
            omega
          · exact fun c hc => hleading.isDigit c (List.mem_of_mem_drop hc)
        · have hzeros : AreDigits (List.replicate (k + 1 - ds.length) '0' ++ ds) :=
            ⟨by simp [hleading.ne_nil], List.forall_mem_append.mpr
              ⟨fun _ => isDigit_of_mem_zeros, hleading.isDigit⟩⟩
          exact isMagnitude_point areReduced_zero hzeros
    · rw [if_neg hplace]
      obtain ⟨c, rest, rfl⟩ := List.exists_cons_of_ne_nil hleading.ne_nil
      have hsign : ∀ place : Int, (if place < 0 then '-' else '+') = '+' ∨
          (if place < 0 then '-' else '+') = '-' := by
        intro place
        split_ifs
        · exact Or.inr rfl
        · exact Or.inl rfl
      rw [Nat.toList_repr]
      exact isMagnitude_scientific hleading (hsign _) (areDigits_toDigits _)

/-! ## Shortest decimals -/

theorem low_interval_pos {x : Binary64} (h : x.significand ≠ 0) : 0 < (interval x).low := by
  have hlow : 0 < if x.significand = Binary64.fullSignificand ∧ -1074 < x.exponent then
      4 * x.significand - 1 else 4 * x.significand - 2 := by
    split_ifs <;> omega
  rw [interval]
  cases x.exponent - 2 with
  | ofNat k => exact Nat.mul_pos hlow (Nat.pow_pos (by decide))
  | negSucc k => exact hlow

/-- Zero is outside of what is above it. -/
theorem holds_zero {i : Interval} (h : 0 < i.low) (e : Int) : i.holds 0 e = false := by
  cases e with
  | ofNat k => simp [Interval.holds, h.ne']
  | negSucc k => simp [Interval.holds, h.ne']

/-- The search ends with digits that are not zero, or without any. -/
theorem search_ne_zero {i : Interval} (h : 0 < i.low) (place : Int) (fuel count : Nat) :
    (search i place fuel count).digits ≠ 0 ∨ search i place fuel count = ⟨0, 0⟩ := by
  induction fuel generalizing count with
  | zero => exact Or.inr rfl
  | succ fuel ih =>
    rw [search]
    cases hfloor : i.floor (place - count) with
    | mk n half =>
      have hbelow : i.holds n (place - count) = true → n ≠ 0 := by
        rintro hn rfl
        rw [holds_zero h] at hn
        cases hn
      dsimp only
      split
      next hboth =>
        left
        rw [Bool.and_eq_true] at hboth
        split
        · exact hbelow hboth.1
        · exact Nat.succ_ne_zero n
        · split
          · exact hbelow hboth.1
          · exact Nat.succ_ne_zero n
      next =>
        split
        next hfirst => exact Or.inl (hbelow hfirst)
        next =>
          split
          · exact Or.inl (Nat.succ_ne_zero n)
          · exact ih (count + 1)

theorem isMagnitude_zero : IsMagnitude ['0', '.', '0'] :=
  isMagnitude_point areReduced_zero areReduced_zero.toAreDigits

theorem isMagnitude_shortest {x : Binary64} (h : x.significand ≠ 0) :
    IsMagnitude (render Number.layout (shortest x)) := by
  rcases search_ne_zero (low_interval_pos h) (interval x).place 18 0 with hdigits | hnone
  · exact isMagnitude_render _ hdigits
  · rw [shortest, hnone]
    exact isMagnitude_zero

/-- The text of a number: a magnitude, behind a minus when it is negative. -/
inductive IsNumberText : List Char → Prop
  | plain {s : List Char} : IsMagnitude s → IsNumberText s
  | minus {s : List Char} : IsMagnitude s → IsNumberText ('-' :: s)

theorem isNumberText (n : Number) : IsNumberText n.text := by
  have hdigits : ∀ m, IsMagnitude (Nat.toDigits 10 m) := fun m =>
    List.append_nil (Nat.toDigits 10 m) ▸ .intro (areReducedDigits_toDigits m) .none .none
  cases n with
  | integer n =>
    rw [Number.text]
    cases n with
    | ofNat m =>
      rw [Integer.toList_repr_ofNat]
      exact .plain (hdigits m)
    | negSucc m =>
      rw [Integer.toList_repr_negSucc]
      exact .minus (hdigits (m + 1))
  | double x =>
    have hmagnitude : IsMagnitude
        (if x.isZero then ['0', '.', '0'] else render Number.layout (shortest x)) := by
      split_ifs with hzero
      · exact isMagnitude_zero
      · exact isMagnitude_shortest (by simpa [Binary64.isZero] using hzero)
    rw [Number.text, Number.doubleText]
    cases x.negative with
    | true => exact .minus hmagnitude
    | false => exact .plain hmagnitude

/-! ## Reading -/

namespace Reader

variable {s fraction exponent : List Char} {r : Octets}

/-- No digit follows and no point. -/
def EndsFraction (r : Octets) : Prop := ∀ b ∈ r.head?, isDigit b = false ∧ char b ≠ '.'

theorem endsFraction_of_exponent (h : IsExponent exponent) (hr : EndsNumber r) :
    EndsFraction (Utf8.encode exponent ++ r) := by
  cases h with
  | none => exact fun b hb => ⟨(hr b hb).1, (hr b hb).2.1⟩
  | digits =>
    rintro b ⟨⟩
    decide

theorem endsDigits_of_fraction (h : IsFraction fraction) (hr : EndsFraction r) :
    EndsDigits (Utf8.encode fraction ++ r) := by
  cases h with
  | none => exact fun b hb => (hr b hb).1
  | digits =>
    rintro b ⟨⟩
    decide

theorem exists_fractionPart (h : IsFraction fraction) (hr : EndsFraction r) :
    ∃ found, fractionPart (Utf8.encode fraction ++ r) = .ok (found, r) := by
  cases h with
  | none =>
    refine ⟨none, ?_⟩
    rw [Utf8.encode_nil, List.nil_append]
    cases r with
    | nil => rfl
    | cons b r => exact if_neg (hr b rfl).2
  | @digits ds hds =>
    have hpoint : Utf8.encodeChar '.' = [46] := rfl
    have hchar : char 46 = '.' := rfl
    refine ⟨some (ds.map digitOf), ?_⟩
    rw [Utf8.encode_cons, hpoint, List.append_assoc, List.singleton_append, fractionPart,
      if_pos hchar, someDigits_encode hds fun b hb => (hr b hb).1]
    rfl

/-- Behind the letter and the sign of an exponent there are its digits. -/
theorem exponentPart_of_sign {b : UInt8} (hb : char b = '+' ∨ char b = '-') (s : Octets) :
    ∃ value : List Nat → Int, exponentPart (101 :: b :: s) =
      (someDigits s).map fun (ds, r) => (some (value ds), r) := by
  have hletter : char 101 = 'e' ∨ char 101 = 'E' := Or.inl rfl
  rcases hb with hb | hb
  · have hminus : char b ≠ '-' := by rw [hb]; decide
    refine ⟨fun ds => valueOfDigits 0 ds, ?_⟩
    simp only [exponentPart, if_pos hletter, if_neg hminus, if_pos hb]
    rfl
  · refine ⟨fun ds => -valueOfDigits 0 ds, ?_⟩
    simp only [exponentPart, if_pos hletter, if_pos hb]
    rfl

theorem exists_exponentPart (h : IsExponent exponent) (hr : EndsNumber r) :
    ∃ found, exponentPart (Utf8.encode exponent ++ r) = .ok (found, r) := by
  cases h with
  | none =>
    refine ⟨none, ?_⟩
    rw [Utf8.encode_nil, List.nil_append, exponentPart_of_ends hr]
  | @digits sign ds hsign hds =>
    have hletter : Utf8.encodeChar 'e' = [101] := rfl
    obtain ⟨b, hb, hchar⟩ : ∃ b, Utf8.encodeChar sign = [b] ∧ char b = sign := by
      rcases hsign with rfl | rfl
      · exact ⟨43, rfl, rfl⟩
      · exact ⟨45, rfl, rfl⟩
    obtain ⟨value, hvalue⟩ := exponentPart_of_sign (hchar.symm ▸ hsign) (Utf8.encode ds ++ r)
    refine ⟨some (value (ds.map digitOf)), ?_⟩
    rw [Utf8.encode_cons, Utf8.encode_cons, hletter, hb, List.append_assoc, List.append_assoc,
      List.singleton_append, List.singleton_append, hvalue, someDigits_encode hds hr.endsDigits]
    rfl

theorem exists_unsigned (h : IsMagnitude s) (negative : Bool) (hr : EndsNumber r) :
    ∃ l, unsigned negative (Utf8.encode s ++ r) = .ok (l, r) := by
  obtain @⟨whole, fraction, exponent, hwhole, hfraction, hexponent⟩ := h
  have hends := endsFraction_of_exponent hexponent hr
  obtain ⟨found, hfound⟩ := exists_fractionPart hfraction hends
  obtain ⟨found', hfound'⟩ := exists_exponentPart hexponent hr
  refine ⟨⟨negative, whole.map digitOf, found, found'⟩, ?_⟩
  rw [unsigned_eq, Utf8.encode_append, Utf8.encode_append, List.append_assoc, List.append_assoc,
    wholePart_encode hwhole (endsDigits_of_fraction hfraction hends)]
  simp only [hfound, hfound']

/-- A magnitude begins with a digit. -/
theorem exists_cons_of_magnitude (h : IsMagnitude s) :
    ∃ c t, s = c :: t ∧ c.isDigit = true := by
  obtain ⟨hwhole, -, -⟩ := h
  obtain ⟨c, rest, rfl⟩ := List.exists_cons_of_ne_nil hwhole.ne_nil
  exact ⟨c, _, rfl, hwhole.isDigit c List.mem_cons_self⟩

theorem exists_literal (h : IsNumberText s) (hr : EndsNumber r) : ∃ c b t l,
    (c = '-' ∨ c.isDigit = true) ∧ char b = c ∧ Utf8.encode s ++ r = b :: t ∧
      literal (b :: t) = .ok (l, r) := by
  cases h with
  | plain h =>
    obtain ⟨l, hl⟩ := exists_unsigned h false hr
    obtain ⟨c, t, rfl, hc⟩ := exists_cons_of_magnitude h
    have hminus : char (.ofNat c.toNat) ≠ '-' := by
      rw [char_digit hc]
      rintro rfl
      cases hc
    have htext : Utf8.encode (c :: t) ++ r = .ofNat c.toNat :: (Utf8.encode t ++ r) := by
      rw [Utf8.encode_cons, encodeChar_of_isDigit hc]
      rfl
    refine ⟨c, _, _, l, Or.inr hc, char_digit hc, htext, ?_⟩
    rw [literal_cons, if_neg hminus, ← htext, hl]
  | @minus s h =>
    obtain ⟨l, hl⟩ := exists_unsigned h true hr
    have hminus : Utf8.encodeChar '-' = [45] := rfl
    have hchar : char 45 = '-' := rfl
    refine ⟨'-', 45, Utf8.encode s ++ r, l, Or.inl rfl, rfl, ?_, ?_⟩
    · rw [Utf8.encode_cons, hminus]
      rfl
    · rw [literal_cons, if_pos hchar, hl]

/-- The text of a number is read as one number, whatever ends it. -/
theorem exists_leaf_text (n : Number) (hr : EndsNumber r) : ∃ b t found,
    Utf8.encode n.text ++ r = b :: t ∧ leaf? b t = some (.number found, some r) := by
  obtain ⟨c, b, t, l, hc, hb, htext, hl⟩ := exists_literal (isNumberText n) hr
  exact ⟨b, t, _, htext, leaf?_literal hc hb hl⟩

end Reader

end IdentityApi.Json
