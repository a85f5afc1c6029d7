import IdentityApi.Proofs.Json.Tree

/-! # Leaves are read from the front

The reading of a leaf takes some octets from the front and leaves the others. It does not matter
what stands behind them, as long as it does not go on with a number (`leaf?_takesFront`).
-/
namespace IdentityApi.Json.Reader

/-! ## Strings -/

/-- Whole octets and escapes, as they may stand between quotes. -/
inductive Between : Octets → Prop
  | nil : Between []
  | plain {b : UInt8} {p : Octets} : IsPlain b → Between p → Between (b :: p)
  | letter {b e : UInt8} {p : Octets} : char b = '\\' → char e ≠ 'u' →
    (simpleEscape e).isSome = true → Between p → Between (b :: e :: p)
  | code {b e w x y z : UInt8} {p : Octets} : char b = '\\' → char e = 'u' →
    (hexFour w x y z).isSome = true → Between p → Between (b :: e :: w :: x :: y :: z :: p)

/-- An octet is told by its character. -/
theorem eq_of_char {b d : UInt8} (h : char b = char d) : b = d := by
  apply UInt8.toNat_inj.mp
  rw [← toNat_char, ← toNat_char, h]

theorem exists_between_of_stringEnd {s r : Octets} (h : stringEnd s = .ok r) :
    ∃ p, Between p ∧ s = p ++ 34 :: r := by
  fun_induction stringEnd s with
  | case1 => cases h
  | case2 b s hb =>
    cases h
    exact ⟨[], .nil, by rw [eq_of_char (d := 34) hb]; rfl⟩
  | case3 => cases h
  | case4 b hb e he w x y z s hcode ih =>
    obtain ⟨p, hp, rfl⟩ := ih h
    exact ⟨_, .code hb he hcode hp, rfl⟩
  | case5 => cases h
  | case6 => cases h
  | case7 b hb e s he hletter ih =>
    obtain ⟨p, hp, rfl⟩ := ih h
    exact ⟨_, .letter hb he hletter hp, rfl⟩
  | case8 => cases h
  | case9 => cases h
  | case10 b s hlow hquote hbackslash ih =>
    obtain ⟨p, hp, rfl⟩ := ih h
    exact ⟨_, .plain ⟨hlow, hquote, hbackslash⟩ hp, rfl⟩

theorem stringEnd_between {p : Octets} (h : Between p) (r : Octets) :
    stringEnd (p ++ 34 :: r) = .ok r := by
  induction h with
  | nil => rw [List.nil_append, stringEnd.eq_def]; rfl
  | @plain b p hb _ ih =>
    have hplain := stringEnd_plain (l := [b]) (by simpa using hb) (p ++ 34 :: r)
    exact hplain.trans ih
  | @letter b e p hb he hletter _ ih =>
    simp only [List.cons_append]
    rw [stringEnd.eq_def]
    simp only [hb, if_neg he, if_pos hletter, ih]
  | @code b e w x y z p hb he hcode _ ih =>
    simp only [List.cons_append]
    rw [stringEnd.eq_def]
    simp only [hb, if_pos he, if_pos hcode, ih]

/-- The content of a string is told by what stands between its quotes. -/
theorem stringContent_between {p : Octets} (h : Between p) (r r' : Octets) :
    stringContent (p ++ 34 :: r) = stringContent (p ++ 34 :: r') := by
  cases h with
  | nil => rw [List.nil_append, List.nil_append, stringContent.eq_def, stringContent.eq_def]; rfl
  | @plain b p hb hp =>
    have hplain := fun r => stringContent_plain (l := [b]) (by simpa using hb) (p ++ 34 :: r)
    exact (hplain r).trans ((congrArg _ (stringContent_between hp r r')).trans (hplain r').symm)
  | @letter b e p hb he hletter hp =>
    obtain ⟨c, hc⟩ := Option.isSome_iff_exists.mp hletter
    simp only [List.cons_append]
    rw [stringContent.eq_def, stringContent.eq_def (b :: e :: (p ++ 34 :: r'))]
    simp only [hb, if_neg he, hc, stringContent_between hp r r']
  | @code b e w x y z p hb he hcode hp =>
    obtain ⟨n, hn⟩ := Option.isSome_iff_exists.mp hcode
    simp only [List.cons_append]
    rw [stringContent.eq_def, stringContent.eq_def (b :: e :: w :: x :: y :: z :: (p ++ 34 :: r'))]
    simp only [hb, if_pos he, hn, stringContent_between hp r r']
    -- half of a pair is read together with what follows it
    cases hp with
    | nil => rfl
    | plain hd => simp only [List.cons_append, hd.backslash, ne_eq, not_false_eq_true, if_true]
    | letter hb' he' =>
      simp only [List.cons_append, hb', he', ne_eq, not_false_eq_true, not_true_eq_false, if_true,
        if_false]
    | code hb' he' _ hp' =>
      simp only [List.cons_append, hb', he', stringContent_between hp' r r']
termination_by p.length

theorem stringText_between {p : Octets} (h : Between p) (r r' : Octets) :
    stringText (p ++ 34 :: r) = stringText (p ++ 34 :: r') := by
  rw [stringText, stringText, stringContent_between h r r']

/-! ## Numbers -/

/-- The reading takes from the front, and may be followed by whatever ends a number. -/
def TakesFront {α : Type} (read : Octets → Except Fault (α × Octets)) : Prop :=
  ∀ ⦃s r : Octets⦄ ⦃a : α⦄, read s = .ok (a, r) →
    r <:+ s ∧ ∀ u, EndsNumber u → read (s ++ u) = .ok (a, r ++ u)

theorem digits_append (s : Octets) {u : Octets} (hu : EndsNumber u) :
    digits (s ++ u) = ((digits s).1, (digits s).2 ++ u) := by
  induction s with
  | nil =>
    cases u with
    | nil => rfl
    | cons b u => simp [digits, (hu b rfl).1]
  | cons b s ih =>
    rw [digits, digits, Prod.mk.injEq] at ih
    cases hb : isDigit b with
    | true => simp [digits, hb, ih.1, ih.2]
    | false => simp [digits, hb]

theorem someDigits_eq_ok_iff {s r : Octets} {ds : List Nat} :
    someDigits s = .ok (ds, r) ↔ digits s = (ds, r) ∧ ds ≠ [] := by
  rw [someDigits]
  obtain ⟨es, t⟩ := digits s
  cases es with
  | nil => cases t <;> simp +contextual
  | cons e es => simp +contextual [and_assoc, eq_comm]

theorem takesFront_someDigits : TakesFront someDigits := by
  intro s r ds h
  obtain ⟨hdigits, hne⟩ := someDigits_eq_ok_iff.mp h
  refine ⟨?_, fun u hu => ?_⟩
  · rw [digits] at hdigits
    exact (Prod.mk.inj hdigits).2 ▸ List.dropWhile_suffix _
  · rw [someDigits_eq_ok_iff, digits_append s hu, hdigits]
    exact ⟨rfl, hne⟩

theorem takesFront_wholePart : TakesFront wholePart := by
  intro s r ds h
  have hsome : someDigits s = .ok (ds, r) := by
    rw [wholePart] at h
    split at h
    · cases h
    · exact h
  obtain ⟨hsuffix, happend⟩ := takesFront_someDigits hsome
  refine ⟨hsuffix, fun u hu => ?_⟩
  rw [wholePart, hsome] at h
  rw [wholePart, happend u hu]
  split at h
  · cases h
  next hzero =>
    split
    next heq => cases heq; exact absurd rfl (hzero _ _ _)
    next => rfl

theorem takesFront_fractionPart : TakesFront fractionPart := by
  intro s r fraction h
  cases s with
  | nil =>
    cases h
    exact ⟨List.suffix_refl _, fun u hu => fractionPart_of_ends hu⟩
  | cons b s =>
    rw [fractionPart] at h
    simp only [List.cons_append, fractionPart]
    split_ifs at h ⊢
    · obtain ⟨⟨ds, t⟩, hdigits, ht⟩ := ok_of_map h
      cases ht
      obtain ⟨hsuffix, happend⟩ := takesFront_someDigits hdigits
      refine ⟨hsuffix.trans (List.suffix_cons b s), fun u hu => ?_⟩
      rw [happend u hu]
      rfl
    · cases h
      exact ⟨List.suffix_refl _, fun u _ => rfl⟩

/-- Behind the letter of an exponent there are digits, perhaps with a sign before them. -/
theorem exists_digits_of_exponent {b : UInt8} (hb : char b = 'e' ∨ char b = 'E') (d : UInt8)
    (s : Octets) : ∃ (value : List Nat → Int) (t : Octets), t <:+ d :: s ∧
      ∀ u, exponentPart (b :: d :: (s ++ u)) =
        (someDigits (t ++ u)).map fun (ds, r) => (some (value ds), r) := by
  let number (ds : List Nat) : Nat := ds.foldl (fun n d => n * 10 + d) 0
  by_cases hminus : char d = '-'
  · refine ⟨fun ds => -(number ds), s, List.suffix_cons d s, fun u => ?_⟩
    simp only [exponentPart, if_pos hb, if_pos hminus]
    rfl
  · by_cases hplus : char d = '+'
    · refine ⟨fun ds => number ds, s, List.suffix_cons d s, fun u => ?_⟩
      simp only [exponentPart, if_pos hb, if_neg hminus, if_pos hplus]
      rfl
    · refine ⟨fun ds => number ds, d :: s, List.suffix_refl _, fun u => ?_⟩
      simp only [exponentPart, if_pos hb, if_neg hminus, if_neg hplus, List.cons_append]
      rfl

theorem takesFront_exponentPart : TakesFront exponentPart := by
  intro s r exponent h
  cases s with
  | nil =>
    cases h
    exact ⟨List.suffix_refl _, fun u hu => exponentPart_of_ends hu⟩
  | cons b s =>
    by_cases hb : char b = 'e' ∨ char b = 'E'
    · cases s with
      | nil => simp [exponentPart, hb, someDigits, digits, Except.map] at h
      | cons d s =>
        obtain ⟨value, t, ht, heq⟩ := exists_digits_of_exponent hb d s
        have hnil := heq []
        rw [List.append_nil, List.append_nil, h] at hnil
        obtain ⟨⟨ds, r'⟩, hdigits, hr⟩ := ok_of_map hnil.symm
        cases hr
        obtain ⟨hsuffix, happend⟩ := takesFront_someDigits hdigits
        refine ⟨hsuffix.trans (ht.trans (List.suffix_cons b _)), fun u hu => ?_⟩
        rw [List.cons_append, List.cons_append, heq, happend u hu]
        rfl
    · have hnone : ∀ s, exponentPart (b :: s) = .ok (none, b :: s) := fun s => if_neg hb
      rw [hnone] at h
      cases h
      exact ⟨List.suffix_refl _, fun u _ => hnone _⟩

/-- A literal behind its sign. -/
def unsigned (negative : Bool) (s : Octets) : Except Fault (Literal × Octets) := do
  let (whole, s) ← wholePart s
  let (fraction, s) ← fractionPart s
  let (exponent, s) ← exponentPart s
  return (⟨negative, whole, fraction, exponent⟩, s)

theorem unsigned_eq (negative : Bool) (s : Octets) : unsigned negative s =
    match wholePart s with
    | .error fault => .error fault
    | .ok (whole, r) =>
      match fractionPart r with
      | .error fault => .error fault
      | .ok (fraction, r) =>
        match exponentPart r with
        | .error fault => .error fault
        | .ok (exponent, r) => .ok (⟨negative, whole, fraction, exponent⟩, r) := by
  rw [unsigned]
  rcases wholePart s with fault | ⟨whole, t⟩
  · rfl
  · rcases hfraction : fractionPart t with fault | ⟨fraction, t'⟩
    · simp [bind, Except.bind, hfraction]
    · rcases hexponent : exponentPart t' with fault | ⟨exponent, t''⟩ <;>
        simp [bind, Except.bind, hfraction, hexponent, pure, Except.pure]

theorem exists_unsigned_of_literal (b : UInt8) (s : Octets) : ∃ negative t, t <:+ b :: s ∧
    ∀ u, literal (b :: (s ++ u)) = unsigned negative (t ++ u) := by
  by_cases hminus : char b = '-'
  · refine ⟨true, s, List.suffix_cons b s, fun u => ?_⟩
    simp only [literal, if_pos hminus]
    exact (unsigned_eq true (s ++ u)).symm
  · refine ⟨false, b :: s, List.suffix_refl _, fun u => ?_⟩
    simp only [literal, if_neg hminus, List.cons_append]
    exact (unsigned_eq false (b :: (s ++ u))).symm

theorem takesFront_unsigned (negative : Bool) : TakesFront (unsigned negative) := by
  intro s r l h
  obtain ⟨⟨whole, s₁⟩, hwhole, h⟩ := ok_of_bind h
  obtain ⟨⟨fraction, s₂⟩, hfraction, h⟩ := ok_of_bind h
  obtain ⟨⟨exponent, s₃⟩, hexponent, h⟩ := ok_of_bind h
  cases h
  obtain ⟨hsuffix₁, happend₁⟩ := takesFront_wholePart hwhole
  obtain ⟨hsuffix₂, happend₂⟩ := takesFront_fractionPart hfraction
  obtain ⟨hsuffix₃, happend₃⟩ := takesFront_exponentPart hexponent
  refine ⟨hsuffix₃.trans (hsuffix₂.trans hsuffix₁), fun u hu => ?_⟩
  exact bind_eq_ok_iff.mpr ⟨_, happend₁ u hu, bind_eq_ok_iff.mpr ⟨_, happend₂ u hu,
    bind_eq_ok_iff.mpr ⟨_, happend₃ u hu, rfl⟩⟩⟩

theorem takesFront_literal {b : UInt8} {s r : Octets} {l : Literal}
    (h : literal (b :: s) = .ok (l, r)) :
    r <:+ b :: s ∧ ∀ u, EndsNumber u → literal (b :: (s ++ u)) = .ok (l, r ++ u) := by
  obtain ⟨negative, t, ht, heq⟩ := exists_unsigned_of_literal b s
  have hnil := heq []
  rw [List.append_nil, List.append_nil, h] at hnil
  obtain ⟨hsuffix, happend⟩ := takesFront_unsigned negative hnil.symm
  refine ⟨hsuffix.trans ht, fun u hu => ?_⟩
  rw [heq, happend u hu]

/-! ## Words -/

theorem word_append {letters : List Char} {s r : Octets} (h : word letters s = .ok r) :
    r <:+ s ∧ ∀ u, word letters (s ++ u) = .ok (r ++ u) := by
  induction letters generalizing s with
  | nil =>
    cases h
    exact ⟨List.suffix_refl _, fun u => rfl⟩
  | cons c letters ih =>
    cases s with
    | nil => cases h
    | cons b s =>
      rw [word] at h
      split_ifs at h with hb
      obtain ⟨hsuffix, happend⟩ := ih h
      refine ⟨hsuffix.trans (List.suffix_cons b s), fun u => ?_⟩
      rw [List.cons_append, word, if_pos hb, happend]

/-! ## Leaves -/

theorem takesFront_named (b : UInt8) {letters : List Char} {s r : Octets} {t t' : Tree}
    (h : (match word letters s with
      | .ok r => (t', some r)
      | .error fault => (.broken fault, none)) = (t, some r)) :
    r <:+ b :: s ∧ ∀ u, (match word letters (s ++ u) with
      | .ok r => (t', some r)
      | .error fault => (.broken fault, none)) = (t, some (r ++ u)) := by
  cases hletters : word letters s with
  | error fault =>
    rw [hletters] at h
    cases h
  | ok r' =>
    rw [hletters] at h
    cases h
    obtain ⟨hsuffix, happend⟩ := word_append hletters
    exact ⟨hsuffix.trans (List.suffix_cons b s), fun u => by rw [happend]⟩

theorem leaf?_takesFront {b : UInt8} {s r : Octets} {t : Tree}
    (h : leaf? b s = some (t, some r)) :
    r <:+ b :: s ∧ ∀ u, EndsNumber u → leaf? b (s ++ u) = some (t, some (r ++ u)) := by
  unfold leaf? at h ⊢
  dsimp only at h ⊢
  split at h
  · obtain ⟨hsuffix, happend⟩ := takesFront_named b (Option.some.inj h)
    exact ⟨hsuffix, fun u _ => congrArg some (happend u)⟩
  · obtain ⟨hsuffix, happend⟩ := takesFront_named b (Option.some.inj h)
    exact ⟨hsuffix, fun u _ => congrArg some (happend u)⟩
  · obtain ⟨hsuffix, happend⟩ := takesFront_named b (Option.some.inj h)
    exact ⟨hsuffix, fun u _ => congrArg some (happend u)⟩
  · cases hend : stringEnd s with
    | error fault => simp [hend] at h
    | ok rest =>
      rw [hend] at h
      cases h
      obtain ⟨p, hp, rfl⟩ := exists_between_of_stringEnd hend
      refine ⟨⟨b :: (p ++ [34]), by simp⟩, fun u _ => ?_⟩
      rw [List.append_assoc, List.cons_append, stringEnd_between hp, stringText_between hp _ r]
  · split_ifs at h ⊢ with hc
    cases hliteral : literal (b :: s) with
    | error fault => simp [hliteral] at h
    | ok found =>
      obtain ⟨l, rest⟩ := found
      obtain ⟨hsuffix, happend⟩ := takesFront_literal hliteral
      rw [hliteral] at h
      dsimp only at h
      cases hnumber : l.number with
      | none =>
        rw [hnumber] at h
        cases h
        exact ⟨hsuffix, fun u hu => by simp only [happend u hu, hnumber]⟩
      | some n =>
        rw [hnumber] at h
        cases h
        exact ⟨hsuffix, fun u hu => by simp only [happend u hu, hnumber]⟩

/-- A string that is read says what stands between its quotes. -/
theorem string_of_leaf {b : UInt8} {s r : Octets} {k : Except Fault String}
    (h : leaf? b s = some (.string k, some r)) :
    char b = '"' ∧ stringText s = k ∧ stringEnd s = .ok r := by
  unfold leaf? at h
  dsimp only at h
  split at h
  · split at h <;> cases h
  · split at h <;> cases h
  · split at h <;> cases h
  next hb =>
    cases hend : stringEnd s with
    | error fault => simp [hend] at h
    | ok rest =>
      rw [hend] at h
      cases h
      exact ⟨hb, rfl, rfl⟩
  next =>
    split_ifs at h with hc
    split at h
    · cases h
    · split at h <;> cases h

/-- An octet that begins a leaf begins a value. -/
theorem starts_of_leaf {b : UInt8} {s : Octets} {found : Tree × Option Octets}
    (h : leaf? b s = some found) : Starts b := by
  have hstarts : ∀ c : Char, 32 < c.toNat → c ≠ ']' → c ≠ '\x7d' → char b = c → Starts b := by
    rintro c hcode hbracket hbrace rfl
    exact ⟨toNat_char b ▸ hcode, hbracket, hbrace⟩
  unfold leaf? at h
  dsimp only at h
  split at h
  next hb => exact hstarts _ (by decide) (by decide) (by decide) hb
  next hb => exact hstarts _ (by decide) (by decide) (by decide) hb
  next hb => exact hstarts _ (by decide) (by decide) (by decide) hb
  next hb => exact hstarts _ (by decide) (by decide) (by decide) hb
  next =>
    split_ifs at h with hc
    have hne : ∀ c : Char, ¬ (c = '-' ∨ c.isDigit = true) → char b ≠ c := by
      rintro c hno rfl
      exact hno hc
    refine ⟨?_, hne _ (by decide), hne _ (by decide)⟩
    rw [← toNat_char b]
    rcases hc with hminus | hdigit
    · rw [hminus]
      decide
    · have := Integer.toNat_of_isDigit hdigit
      omega

end IdentityApi.Json.Reader
