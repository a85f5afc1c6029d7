import IdentityApi.Proofs.Text.Utf8

/-! # Octets that are no text are mended

Octets fall into characters and ill-formed parts, each of which is as long as the beginning of a
character can be, or one octet. There is one way to cut them (`Mends.unique`), and reading them
leniently gives it, with U+FFFD for every such part (`mends_decodeLossy`).
-/
namespace IdentityApi.Utf8

/-- What stands for an ill-formed part. -/
def replacement : Char := .ofNat 0xFFFD

/-- Some character begins with these octets. -/
def IsOpening (part : Octets) : Prop := ∃ c, part <+: encodeChar c

/-- An ill-formed part at the front: no character stands there, and the part is the longest one that
a character could begin with, or a single octet. -/
structure IsBadPart (part rest : Octets) : Prop where
  noChar : ∀ c, ¬ encodeChar c <+: part ++ rest
  beginning : part.length = 1 ∨ part ≠ [] ∧ IsOpening part
  maximal : ∀ b ∈ rest.head?, ¬ IsOpening (part ++ [b])

theorem IsBadPart.ne_nil {part rest : Octets} (h : IsBadPart part rest) : part ≠ [] := by
  rcases h.beginning with hone | ⟨hne, -⟩
  · exact List.ne_nil_of_length_pos (by omega)
  · exact hne

/-- The octets are cut into characters and ill-formed parts, and each of the latter is replaced. -/
inductive Mends : Octets → List Char → Prop
  | nil : Mends [] []
  | char {c : Char} {s : Octets} {cs : List Char} : Mends s cs → Mends (encodeChar c ++ s) (c :: cs)
  | bad {part s : Octets} {cs : List Char} :
    IsBadPart part s → Mends s cs → Mends (part ++ s) (replacement :: cs)

/-! ## Characters that are taken -/

theorem octet_eq {n : Nat} {b : UInt8} (h : n = b.toNat) : UInt8.ofNat n = b := by
  rw [h, UInt8.ofNat_toNat]

theorem isTail_iff {b : UInt8} : isTail b = true ↔ 0x80 ≤ b.toNat ∧ b.toNat < 0xC0 := by
  simp [isTail]

theorem secondFits_iff {a b : UInt8} : secondFits a b = true ↔
    (secondRange a.toNat).1 ≤ b.toNat ∧ b.toNat < (secondRange a.toNat).2 := by
  simp [secondFits]

/-- What a fitting second octet says about the code point that it belongs to. -/
theorem bounds_of_secondFits {a b : UInt8} (h : secondFits a b = true) :
    0x80 ≤ b.toNat ∧ b.toNat < 0xC0 ∧ (a.toNat = 0xE0 → 0xA0 ≤ b.toNat) ∧
      (a.toNat = 0xED → b.toNat < 0xA0) ∧ (a.toNat = 0xF0 → 0x90 ≤ b.toNat) ∧
      (a.toNat = 0xF4 → b.toNat < 0x90) := by
  rw [secondFits_iff, secondRange] at h
  split_ifs at h <;> dsimp only at h <;> omega

theorem toNat_ofNat {n : Nat} (h : n < 0xD800 ∨ (0xDFFF < n ∧ n < 0x110000)) :
    (Char.ofNat n).toNat = n := by
  rw [Char.toNat_ofNat, if_pos]
  unfold Nat.isValidChar
  omega

theorem encodeChar_of_two {c : Char} (hlow : 0x80 ≤ c.toNat) (hhigh : c.toNat < 0x800) :
    encodeChar c = [.ofNat (0xC0 + c.toNat / 64), .ofNat (0x80 + c.toNat % 64)] := by
  rw [encodeChar, if_neg (by omega), if_pos hhigh]

theorem encodeChar_of_three {c : Char} (hlow : 0x800 ≤ c.toNat) (hhigh : c.toNat < 0x10000) :
    encodeChar c = [.ofNat (0xE0 + c.toNat / 4096), .ofNat (0x80 + c.toNat / 64 % 64),
      .ofNat (0x80 + c.toNat % 64)] := by
  rw [encodeChar, if_neg (by omega), if_neg (by omega), if_pos hhigh]

theorem encodeChar_of_four {c : Char} (hlow : 0x10000 ≤ c.toNat) :
    encodeChar c = [.ofNat (0xF0 + c.toNat / 262144), .ofNat (0x80 + c.toNat / 4096 % 64),
      .ofNat (0x80 + c.toNat / 64 % 64), .ofNat (0x80 + c.toNat % 64)] := by
  rw [encodeChar, if_neg (by omega), if_neg (by omega), if_neg (by omega)]

/-- Two octets that fit together are those of a character. -/
theorem encodeChar_two_octets {a b : UInt8} (ha : 0xC2 ≤ a.toNat) (ha' : a.toNat < 0xE0)
    (hb : isTail b = true) :
    encodeChar (.ofNat ((a.toNat - 0xC0) * 64 + (b.toNat - 0x80))) = [a, b] := by
  obtain ⟨hlow, hhigh⟩ := isTail_iff.mp hb
  have hn := toNat_ofNat (n := (a.toNat - 0xC0) * 64 + (b.toNat - 0x80)) (by omega)
  generalize Char.ofNat ((a.toNat - 0xC0) * 64 + (b.toNat - 0x80)) = c at hn ⊢
  rw [encodeChar_of_two (by omega) (by omega), octet_eq (b := a) (by omega),
    octet_eq (b := b) (by omega)]

theorem encodeChar_three_octets {a b d : UInt8} (ha : 0xE0 ≤ a.toNat) (ha' : a.toNat < 0xF0)
    (hb : secondFits a b = true) (hd : isTail d = true) :
    encodeChar (.ofNat ((a.toNat - 0xE0) * 4096 + (b.toNat - 0x80) * 64 + (d.toNat - 0x80))) =
      [a, b, d] := by
  obtain ⟨hlow, hhigh, hE0, hED, -⟩ := bounds_of_secondFits hb
  obtain ⟨hlow', hhigh'⟩ := isTail_iff.mp hd
  have hn := toNat_ofNat
    (n := (a.toNat - 0xE0) * 4096 + (b.toNat - 0x80) * 64 + (d.toNat - 0x80)) (by omega)
  generalize Char.ofNat _ = c at hn ⊢
  rw [encodeChar_of_three (by omega) (by omega), octet_eq (b := a) (by omega),
    octet_eq (b := b) (by omega), octet_eq (b := d) (by omega)]

theorem encodeChar_four_octets {a b d e : UInt8} (ha : 0xF0 ≤ a.toNat) (ha' : a.toNat < 0xF5)
    (hb : secondFits a b = true) (hd : isTail d = true) (he : isTail e = true) :
    encodeChar (.ofNat ((a.toNat - 0xF0) * 262144 + (b.toNat - 0x80) * 4096 +
      (d.toNat - 0x80) * 64 + (e.toNat - 0x80))) = [a, b, d, e] := by
  obtain ⟨hlow, hhigh, -, -, hF0, hF4⟩ := bounds_of_secondFits hb
  obtain ⟨hlow', hhigh'⟩ := isTail_iff.mp hd
  obtain ⟨hlow'', hhigh''⟩ := isTail_iff.mp he
  have hn := toNat_ofNat (n := (a.toNat - 0xF0) * 262144 + (b.toNat - 0x80) * 4096 +
    (d.toNat - 0x80) * 64 + (e.toNat - 0x80)) (by omega)
  generalize Char.ofNat _ = c at hn ⊢
  rw [encodeChar_of_four (by omega), octet_eq (b := a) (by omega), octet_eq (b := b) (by omega),
    octet_eq (b := d) (by omega), octet_eq (b := e) (by omega)]

/-- A character that is taken has the octets that it was taken from. -/
theorem eq_append_of_takeChar {a : UInt8} {r rest : Octets} {c : Char}
    (h : takeChar a r = .char c rest) : a :: r = encodeChar c ++ rest := by
  unfold takeChar at h
  dsimp only at h
  split_ifs at h with h₁ h₂ h₃ h₄
  · cases h
    have hn := toNat_ofNat (n := a.toNat) (by omega)
    rw [encodeChar_of_lt (by omega), hn, UInt8.ofNat_toNat]
    rfl
  · simp only [Bool.and_eq_true, decide_eq_true_eq] at h₂
    obtain ⟨hlow, hhigh⟩ := h₂
    split at h
    next b r =>
      split_ifs at h with hb
      obtain ⟨hc, hrest⟩ := Head.char.inj h
      rw [← hc, ← hrest, encodeChar_two_octets hlow hhigh hb]
      rfl
    next => cases h
  · simp only [Bool.and_eq_true, decide_eq_true_eq] at h₃
    obtain ⟨hlow, hhigh⟩ := h₃
    split at h
    next b d r =>
      split_ifs at h with hb hd
      obtain ⟨hc, hrest⟩ := Head.char.inj h
      rw [← hc, ← hrest, encodeChar_three_octets hlow hhigh hb hd]
      rfl
    next => split_ifs at h
    next => cases h
  · simp only [Bool.and_eq_true, decide_eq_true_eq] at h₄
    obtain ⟨hlow, hhigh⟩ := h₄
    split at h
    next b d e r =>
      split_ifs at h with hb hd he
      obtain ⟨hc, hrest⟩ := Head.char.inj h
      rw [← hc, ← hrest, encodeChar_four_octets hlow hhigh hb hd he]
      rfl
    next => split_ifs at h
    next => split_ifs at h
    next => cases h

/-! ## Ill-formed parts -/

/-- Octets that begin with a character read as that character. -/
theorem takeChar_of_isPrefix {a : UInt8} {r : Octets} {c : Char} (h : encodeChar c <+: a :: r) :
    ∃ rest, takeChar a r = .char c rest := by
  obtain ⟨rest, h⟩ := h
  obtain ⟨b, u, hc⟩ := List.exists_cons_of_ne_nil (encodeChar_ne_nil c)
  rw [hc, List.cons_append] at h
  obtain ⟨rfl, rfl⟩ := List.cons.inj h
  exact ⟨rest, takeChar_encodeChar hc rest⟩

/-- Octets that begin a character are followed by octets with which they are that character. -/
theorem IsOpening.exists_takeChar {a : UInt8} {part : Octets} (h : IsOpening (a :: part)) :
    ∃ c u, takeChar a (part ++ u) = .char c [] := by
  obtain ⟨c, u, h⟩ := h
  have hc : encodeChar c = a :: (part ++ u) := h.symm
  exact ⟨c, u, by simpa using takeChar_encodeChar hc []⟩

/-- First octets of two, three or four. -/
def LeadsLong (a : UInt8) : Prop := 0xE0 ≤ a.toNat ∧ a.toNat < 0xF5

theorem IsOpening.second {a b : UInt8} (h : IsOpening [a, b]) :
    (0xC2 ≤ a.toNat ∧ a.toNat < 0xE0 ∧ isTail b = true) ∨
      (LeadsLong a ∧ secondFits a b = true) := by
  obtain ⟨c, u, h⟩ := h.exists_takeChar
  unfold takeChar at h
  simp only [List.cons_append, List.nil_append, Bool.and_eq_true, decide_eq_true_eq] at h
  split_ifs at h with h₁ h₂ hb h₃ h₄
  · cases (Head.char.inj h).2
  · exact Or.inl ⟨h₂.1, h₂.2, hb⟩
  · refine Or.inr ⟨⟨h₃.1, by omega⟩, ?_⟩
    rcases u with _ | ⟨d, u⟩ <;> dsimp only at h
    · split_ifs at h
    · split_ifs at h with hb hd
      exact hb
  · refine Or.inr ⟨⟨by omega, h₄.2⟩, ?_⟩
    rcases u with _ | ⟨d, _ | ⟨e, u⟩⟩ <;> dsimp only at h
    · split_ifs at h
    · split_ifs at h
    · split_ifs at h with hb hd he
      exact hb

theorem IsOpening.third {a b d : UInt8} (h : IsOpening [a, b, d]) :
    LeadsLong a ∧ secondFits a b = true ∧ isTail d = true := by
  obtain ⟨c, u, h⟩ := h.exists_takeChar
  unfold takeChar at h
  simp only [List.cons_append, List.nil_append, Bool.and_eq_true, decide_eq_true_eq] at h
  split_ifs at h with h₁ h₂ hb h₃ hb hd h₄
  · cases (Head.char.inj h).2
  · cases (Head.char.inj h).2
  · exact ⟨⟨h₃.1, by omega⟩, hb, hd⟩
  · rcases u with _ | ⟨e, u⟩
    · dsimp only at h
      split_ifs at h
    · dsimp only at h
      split_ifs at h with hb hd
      exact ⟨⟨by omega, h₄.2⟩, hb, hd⟩

theorem IsOpening.fourth {a b d e : UInt8} (h : IsOpening [a, b, d, e]) :
    0xF0 ≤ a.toNat ∧ a.toNat < 0xF5 ∧ isTail e = true := by
  obtain ⟨c, u, h⟩ := h.exists_takeChar
  unfold takeChar at h
  simp only [List.cons_append, List.nil_append, Bool.and_eq_true, decide_eq_true_eq] at h
  split_ifs at h with h₁ h₂ hb h₃ hb hd h₄ hb hd he
  · cases (Head.char.inj h).2
  · cases (Head.char.inj h).2
  · cases (Head.char.inj h).2
  · exact ⟨h₄.1, h₄.2, he⟩

/-- An octet that can stand behind every other one. -/
theorem isTail_filler : isTail 0x80 = true := by decide

theorem isOpening_two {a b : UInt8} (ha : LeadsLong a) (hb : secondFits a b = true) :
    IsOpening [a, b] := by
  obtain ⟨hlow, hhigh⟩ := ha
  by_cases hshort : a.toNat < 0xF0
  · exact ⟨_, [0x80], (encodeChar_three_octets hlow hshort hb isTail_filler).symm⟩
  · exact ⟨_, [0x80, 0x80],
      (encodeChar_four_octets (by omega) hhigh hb isTail_filler isTail_filler).symm⟩

theorem isOpening_three {a b d : UInt8} (hlow : 0xF0 ≤ a.toNat) (hhigh : a.toNat < 0xF5)
    (hb : secondFits a b = true) (hd : isTail d = true) : IsOpening [a, b, d] :=
  ⟨_, [0x80], (encodeChar_four_octets hlow hhigh hb hd isTail_filler).symm⟩

/-- How reading stops before a character is complete: after the first octet, or after two or three
that fit together. -/
inductive Stops (a : UInt8) : Octets → Octets → Prop
  | first {r : Octets} (h : ∀ b ∈ r.head?, ¬ IsOpening [a, b]) : Stops a r r
  | second {b : UInt8} {r : Octets} (hb : IsOpening [a, b])
    (h : ∀ d ∈ r.head?, ¬ isTail d = true) : Stops a (b :: r) r
  | third {b d : UInt8} {r : Octets} (hd : IsOpening [a, b, d])
    (h : ∀ e ∈ r.head?, ¬ isTail e = true) : Stops a (b :: d :: r) r

/-- Octets that lead three or four stop before an octet that does not fit. -/
theorem Stops.of_not_fits {a b : UInt8} {r : Octets} (ha : LeadsLong a)
    (hb : ¬ secondFits a b = true) : Stops a (b :: r) (b :: r) := by
  apply Stops.first
  intro b' hb' hopening
  obtain rfl : b = b' := by simpa using hb'
  rcases hopening.second with ⟨-, hshort, -⟩ | ⟨-, hfits⟩
  · exact absurd ha.1 (by omega)
  · exact hb hfits

theorem stops_of_takeChar {a : UInt8} {r rest : Octets} (h : takeChar a r = .bad rest) :
    Stops a r rest := by
  unfold takeChar at h
  simp only [Bool.and_eq_true, decide_eq_true_eq] at h
  split_ifs at h with h₁ h₂ h₃ h₄
  · -- octets that lead two
    rcases r with _ | ⟨b, r⟩ <;> dsimp only at h
    · obtain rfl := Head.bad.inj h
      exact .first (by simp)
    · split_ifs at h with hb
      obtain rfl := Head.bad.inj h
      apply Stops.first
      intro b' hb' hopening
      obtain rfl : b = b' := by simpa using hb'
      rcases hopening.second with ⟨-, -, htail⟩ | ⟨⟨hlong, -⟩, -⟩
      · exact hb htail
      · omega
  · -- octets that lead three
    have ha : LeadsLong a := ⟨h₃.1, by omega⟩
    rcases r with _ | ⟨b, _ | ⟨d, r⟩⟩ <;> dsimp only at h
    · obtain rfl := Head.bad.inj h
      exact .first (by simp)
    · split_ifs at h with hb <;> obtain rfl := Head.bad.inj h
      · exact .second (isOpening_two ha hb) (by simp)
      · exact .of_not_fits ha hb
    · split_ifs at h with hb hd <;> obtain rfl := Head.bad.inj h
      · exact .second (isOpening_two ha hb) (by simpa using hd)
      · exact .of_not_fits ha hb
  · -- octets that lead four
    have ha : LeadsLong a := ⟨by omega, h₄.2⟩
    rcases r with _ | ⟨b, _ | ⟨d, _ | ⟨e, r⟩⟩⟩ <;> dsimp only at h
    · obtain rfl := Head.bad.inj h
      exact .first (by simp)
    · split_ifs at h with hb <;> obtain rfl := Head.bad.inj h
      · exact .second (isOpening_two ha hb) (by simp)
      · exact .of_not_fits ha hb
    · split_ifs at h with hb hd <;> obtain rfl := Head.bad.inj h
      · exact .third (isOpening_three h₄.1 h₄.2 hb hd) (by simp)
      · exact .second (isOpening_two ha hb) (by simpa using hd)
      · exact .of_not_fits ha hb
    · split_ifs at h with hb hd he <;> obtain rfl := Head.bad.inj h
      · exact .third (isOpening_three h₄.1 h₄.2 hb hd) (by simpa using he)
      · exact .second (isOpening_two ha hb) (by simpa using hd)
      · exact .of_not_fits ha hb
  · -- octets that lead nothing
    obtain rfl := Head.bad.inj h
    apply Stops.first
    rintro b - hopening
    rcases hopening.second with ⟨hlow, hhigh, -⟩ | ⟨⟨hlow, hhigh⟩, -⟩ <;> omega

/-- Where no character is read, an ill-formed part is passed over. -/
theorem exists_isBadPart {a : UInt8} {r rest : Octets} (h : takeChar a r = .bad rest) :
    ∃ part, a :: r = part ++ rest ∧ IsBadPart part rest := by
  have hnone : ∀ c, ¬ encodeChar c <+: a :: r := by
    intro c hc
    obtain ⟨rest', htaken⟩ := takeChar_of_isPrefix hc
    rw [h] at htaken
    cases htaken
  cases stops_of_takeChar h with
  | first hmax => exact ⟨[a], rfl, hnone, Or.inl rfl, hmax⟩
  | @second b _ hb hmax =>
    refine ⟨[a, b], rfl, hnone, Or.inr ⟨by simp, hb⟩, ?_⟩
    exact fun d hd hopening => hmax d hd hopening.third.2.2
  | @third b d _ hd hmax =>
    refine ⟨[a, b, d], rfl, hnone, Or.inr ⟨by simp, hd⟩, ?_⟩
    exact fun e he hopening => hmax e he hopening.fourth.2.2

/-! ## Mending -/

/-- Reading with a replacement mends, as far as the fuel lasts. -/
theorem mends_of_decodeWith {fuel : Nat} {s : Octets} {cs : List Char}
    (h : decodeWith (some replacement) fuel s = some cs) : Mends s cs := by
  induction fuel generalizing s cs with
  | zero =>
    cases s with
    | nil => cases h; exact .nil
    | cons b r => cases h
  | succ fuel ih =>
    cases s with
    | nil => cases h; exact .nil
    | cons b r =>
      rw [decodeWith] at h
      cases hhead : takeChar b r with
      | char c rest =>
        rw [hhead] at h
        obtain ⟨cs, hrest, rfl⟩ := Option.map_eq_some_iff.mp h
        rw [eq_append_of_takeChar hhead]
        exact .char (ih hrest)
      | bad rest =>
        rw [hhead] at h
        obtain ⟨cs, hrest, rfl⟩ := Option.map_eq_some_iff.mp h
        obtain ⟨part, hs, hbad⟩ := exists_isBadPart hhead
        rw [hs]
        exact .bad hbad (ih hrest)

theorem length_le_of_takeChar {a : UInt8} {r rest : Octets}
    (h : takeChar a r = .bad rest ∨ ∃ c, takeChar a r = .char c rest) :
    rest.length ≤ r.length := by
  rcases h with h | ⟨c, h⟩
  · obtain ⟨part, hs, hbad⟩ := exists_isBadPart h
    have := congrArg List.length hs
    have := List.length_pos_of_ne_nil hbad.ne_nil
    simp only [List.length_cons, List.length_append] at *
    omega
  · have := congrArg List.length (eq_append_of_takeChar h)
    have := List.length_pos_of_ne_nil (encodeChar_ne_nil c)
    simp only [List.length_cons, List.length_append] at *
    omega

/-- With a replacement, reading takes no more steps than there are octets. -/
theorem decodeWith_isSome (onBad : Char) {fuel : Nat} {s : Octets} (h : s.length ≤ fuel) :
    (decodeWith (some onBad) fuel s).isSome = true := by
  induction fuel generalizing s with
  | zero =>
    obtain rfl := List.length_eq_zero_iff.mp (Nat.le_zero.mp h)
    rfl
  | succ fuel ih =>
    cases s with
    | nil => rfl
    | cons b r =>
      rw [List.length_cons] at h
      rw [decodeWith]
      cases hhead : takeChar b r with
      | char c rest =>
        have := length_le_of_takeChar (Or.inr ⟨c, hhead⟩)
        simpa using ih (by omega)
      | bad rest =>
        have := length_le_of_takeChar (Or.inl hhead)
        simpa using ih (by omega)

/-- Reading leniently mends. -/
theorem mends_decodeLossy (s : Octets) : Mends s (decodeLossy s) := by
  obtain ⟨cs, h⟩ :=
    Option.isSome_iff_exists.mp (decodeWith_isSome replacement (Nat.le_refl s.length))
  have hlossy : decodeLossy s = cs := congrArg (Option.getD · []) h
  rw [hlossy]
  exact mends_of_decodeWith h

/-- Texts need no mending. -/
theorem decodeLossy_encode (cs : List Char) : decodeLossy (encode cs) = cs := by
  rw [decodeLossy, decodeWith_encode _ _ (length_le_length_encode cs)]
  rfl

/-! ## One way to mend -/

/-- Of two ill-formed parts at the same front, none is the longer one. -/
theorem IsBadPart.length_le {part part' s s' : Octets} (h : IsBadPart part s)
    (h' : IsBadPart part' s') (happ : part ++ s = part' ++ s') : part'.length ≤ part.length := by
  by_contra hlt
  have hpos := List.length_pos_of_ne_nil h.ne_nil
  have hopening : IsOpening part' := by
    rcases h'.beginning with hone | ⟨-, hopening⟩
    · omega
    · exact hopening
  obtain ⟨more, rfl⟩ : part <+: part' :=
    List.prefix_of_prefix_length_le (List.prefix_append part s) (happ ▸ List.prefix_append part' s')
      (by omega)
  rw [List.append_assoc, List.append_cancel_left_eq] at happ
  cases more with
  | nil => simp at hlt
  | cons b more =>
    obtain ⟨c, hc⟩ := hopening
    apply h.maximal b (by simp [happ])
    exact ⟨c, (List.prefix_append_right_inj part).mpr ⟨more, rfl⟩ |>.trans hc⟩

theorem IsBadPart.unique {part part' s s' : Octets} (h : IsBadPart part s) (h' : IsBadPart part' s')
    (happ : part ++ s = part' ++ s') : part = part' ∧ s = s' :=
  List.append_inj happ (Nat.le_antisymm (h'.length_le h happ.symm) (h.length_le h' happ))

theorem encodeChar_append_inj {c c' : Char} {s s' : Octets}
    (h : encodeChar c ++ s = encodeChar c' ++ s') : c = c' ∧ s = s' := by
  obtain ⟨b, r, hc⟩ := List.exists_cons_of_ne_nil (encodeChar_ne_nil c)
  obtain ⟨b', r', hc'⟩ := List.exists_cons_of_ne_nil (encodeChar_ne_nil c')
  have hread := takeChar_encodeChar hc s
  rw [hc, hc', List.cons_append, List.cons_append] at h
  obtain ⟨rfl, hr⟩ := List.cons.inj h
  rw [hr, takeChar_encodeChar hc' s'] at hread
  obtain ⟨rfl, rfl⟩ := Head.char.inj hread
  exact ⟨rfl, rfl⟩

/-- Octets are mended in one way. -/
theorem Mends.unique {s : Octets} {cs cs' : List Char} (h : Mends s cs) (h' : Mends s cs') :
    cs = cs' := by
  induction h generalizing cs' with
  | nil =>
    generalize hs : ([] : Octets) = s at h'
    cases h' with
    | nil => rfl
    | char => exact absurd (List.append_eq_nil_iff.mp hs.symm).1 (encodeChar_ne_nil _)
    | bad hbad => exact absurd (List.append_eq_nil_iff.mp hs.symm).1 hbad.ne_nil
  | @char c s cs _ ih =>
    generalize hs : encodeChar c ++ s = u at h'
    cases h' with
    | nil => exact absurd (List.append_eq_nil_iff.mp hs).1 (encodeChar_ne_nil _)
    | char h' =>
      obtain ⟨rfl, rfl⟩ := encodeChar_append_inj hs
      rw [ih h']
    | bad hbad => exact absurd ⟨s, hs⟩ (hbad.noChar c)
  | @bad part s cs hbad _ ih =>
    generalize hs : part ++ s = u at h'
    cases h' with
    | nil => exact absurd (List.append_eq_nil_iff.mp hs).1 hbad.ne_nil
    | @char c s' => exact absurd ⟨s', hs.symm⟩ (hbad.noChar c)
    | bad hbad' h' =>
      obtain ⟨rfl, rfl⟩ := hbad.unique hbad' hs
      rw [ih h']

end IdentityApi.Utf8
