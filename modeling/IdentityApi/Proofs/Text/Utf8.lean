import IdentityApi.Text.Utf8
import Mathlib

/-! # Texts and their octets

Every text is read back from its octets (`decode?_encode`), so no two texts have the same octets.
Octets below 128 stand for themselves and stand in no other character.
-/
namespace IdentityApi.Utf8

theorem toNat_octet {n : Nat} (h : n < 256) : (UInt8.ofNat n).toNat = n :=
  UInt8.toNat_ofNat_of_lt' h

theorem toNat_ofUInt8 (b : UInt8) : (Char.ofUInt8 b).toNat = b.toNat := by
  simp [Char.ofUInt8, Char.toNat]

/-- The octet of an ASCII character is its code. -/
theorem ofUInt8_octet {c : Char} (h : c.toNat < 0x80) : Char.ofUInt8 (.ofNat c.toNat) = c := by
  apply Char.toNat_inj.mp
  rw [toNat_ofUInt8, toNat_octet (by omega)]

/-- Code points are below `0x110000` and are no surrogates. -/
theorem toNat_bounds (c : Char) :
    c.toNat < 0x110000 ∧ (c.toNat < 0xD800 ∨ 0xDFFF < c.toNat) := by
  have h := c.valid
  simp only [UInt32.isValidChar, Nat.isValidChar] at h
  have hc : c.val.toNat = c.toNat := rfl
  omega

theorem isTail_ofNat {n : Nat} (hlow : 0x80 ≤ n) (hhigh : n < 0xC0) :
    isTail (.ofNat n) = true := by
  rw [isTail, toNat_octet (by omega)]
  simp [hlow, hhigh]

theorem secondFits_ofNat {a b : Nat} (ha : a < 256) (hb : b < 256)
    (h : (secondRange a).1 ≤ b ∧ b < (secondRange a).2) :
    secondFits (.ofNat a) (.ofNat b) = true := by
  rw [secondFits, toNat_octet ha, toNat_octet hb]
  simp [h]

/-- The octets of a character read as that character. -/
theorem takeChar_encodeChar {c : Char} {b : UInt8} {r : Octets} (h : encodeChar c = b :: r)
    (rest : Octets) : takeChar b (r ++ rest) = .char c rest := by
  obtain ⟨hmax, hsurrogate⟩ := toNat_bounds c
  unfold encodeChar at h
  dsimp only at h
  split_ifs at h with h₁ h₂ h₃
  · -- one octet
    cases h
    have hb := toNat_octet (n := c.toNat) (by omega)
    simp [takeChar, hb, h₁, Char.ofNat_toNat]
  · -- two octets
    cases h
    have hb := toNat_octet (n := 0xC0 + c.toNat / 64) (by omega)
    have ht := isTail_ofNat (n := 0x80 + c.toNat % 64) (by omega) (by omega)
    have hv := toNat_octet (n := 0x80 + c.toNat % 64) (by omega)
    have hsum : (0xC0 + c.toNat / 64 - 0xC0) * 64 + (0x80 + c.toNat % 64 - 0x80) = c.toNat := by
      omega
    simp only [takeChar, List.cons_append, List.nil_append, hb, ht, hv, hsum, Char.ofNat_toNat]
    rw [if_neg (by omega), if_pos (by simp; omega)]
    simp
  · -- three octets
    cases h
    have hb := toNat_octet (n := 0xE0 + c.toNat / 4096) (by omega)
    have hv₁ := toNat_octet (n := 0x80 + c.toNat / 64 % 64) (by omega)
    have ht := isTail_ofNat (n := 0x80 + c.toNat % 64) (by omega) (by omega)
    have hv₂ := toNat_octet (n := 0x80 + c.toNat % 64) (by omega)
    have hfits := secondFits_ofNat (a := 0xE0 + c.toNat / 4096) (b := 0x80 + c.toNat / 64 % 64)
      (by omega) (by omega) (by unfold secondRange; split_ifs <;> dsimp only <;> omega)
    have hsum : (0xE0 + c.toNat / 4096 - 0xE0) * 4096 + (0x80 + c.toNat / 64 % 64 - 0x80) * 64 +
        (0x80 + c.toNat % 64 - 0x80) = c.toNat := by omega
    simp only [takeChar, List.cons_append, List.nil_append, hb, ht, hfits, hv₁, hv₂, hsum,
      Char.ofNat_toNat]
    rw [if_neg (by omega), if_neg (by simp), if_pos (by simp; omega)]
    simp
  · -- four octets
    cases h
    have hb := toNat_octet (n := 0xF0 + c.toNat / 262144) (by omega)
    have hv₁ := toNat_octet (n := 0x80 + c.toNat / 4096 % 64) (by omega)
    have ht₂ := isTail_ofNat (n := 0x80 + c.toNat / 64 % 64) (by omega) (by omega)
    have hv₂ := toNat_octet (n := 0x80 + c.toNat / 64 % 64) (by omega)
    have ht₃ := isTail_ofNat (n := 0x80 + c.toNat % 64) (by omega) (by omega)
    have hv₃ := toNat_octet (n := 0x80 + c.toNat % 64) (by omega)
    have hfits := secondFits_ofNat (a := 0xF0 + c.toNat / 262144) (b := 0x80 + c.toNat / 4096 % 64)
      (by omega) (by omega) (by unfold secondRange; split_ifs <;> dsimp only <;> omega)
    have hsum : (0xF0 + c.toNat / 262144 - 0xF0) * 262144 +
        (0x80 + c.toNat / 4096 % 64 - 0x80) * 4096 + (0x80 + c.toNat / 64 % 64 - 0x80) * 64 +
          (0x80 + c.toNat % 64 - 0x80) = c.toNat := by omega
    simp only [takeChar, List.cons_append, List.nil_append, hb, ht₂, ht₃, hfits, hv₁, hv₂, hv₃,
      hsum, Char.ofNat_toNat]
    rw [if_neg (by omega), if_neg (by simp; omega), if_neg (by simp), if_pos (by simp; omega)]
    simp

theorem encodeChar_ne_nil (c : Char) : encodeChar c ≠ [] := by
  unfold encodeChar
  dsimp only
  split_ifs <;> simp

/-- Reading characters takes one step a character. -/
theorem decodeWith_encode (onBad : Option Char) (s : List Char) {fuel : Nat}
    (h : s.length ≤ fuel) : decodeWith onBad fuel (encode s) = some s := by
  induction s generalizing fuel with
  | nil => cases fuel <;> rfl
  | cons c s ih =>
    obtain ⟨fuel, rfl⟩ : ∃ k, fuel = k + 1 :=
      ⟨fuel - 1, by rw [List.length_cons] at h; omega⟩
    obtain ⟨b, r, hc⟩ := List.exists_cons_of_ne_nil (encodeChar_ne_nil c)
    have htail : decodeWith onBad fuel (encode s) = some s :=
      ih (by rw [List.length_cons] at h; omega)
    have hs : encode (c :: s) = b :: (r ++ encode s) := by
      rw [encode, List.flatMap_cons, hc, List.cons_append, encode]
    rw [hs, decodeWith, takeChar_encodeChar hc]
    dsimp only
    rw [htail]
    rfl

theorem length_le_length_encode (s : List Char) : s.length ≤ (encode s).length := by
  induction s with
  | nil => exact Nat.le_refl 0
  | cons c s ih =>
    obtain ⟨b, r, hc⟩ := List.exists_cons_of_ne_nil (encodeChar_ne_nil c)
    rw [encode, List.flatMap_cons, ← encode, hc, List.length_append, List.length_cons,
      List.length_cons]
    omega

theorem decode?_encode (s : List Char) : decode? (encode s) = some s :=
  decodeWith_encode none s (length_le_length_encode s)

theorem encode_inj {s t : List Char} (h : encode s = encode t) : s = t := by
  have := congrArg decode? h
  rwa [decode?_encode, decode?_encode, Option.some.injEq] at this

@[simp] theorem encode_nil : encode [] = [] := rfl

@[simp] theorem encode_cons (c : Char) (s : List Char) :
    encode (c :: s) = encodeChar c ++ encode s := List.flatMap_cons

@[simp] theorem encode_append (s t : List Char) : encode (s ++ t) = encode s ++ encode t :=
  List.flatMap_append

/-- An ASCII character is one octet. -/
theorem encodeChar_of_lt {c : Char} (h : c.toNat < 0x80) : encodeChar c = [.ofNat c.toNat] := by
  rw [encodeChar]
  exact if_pos h

/-- The octets of a character beyond ASCII are beyond ASCII. -/
theorem le_of_mem_encodeChar {c : Char} (h : 0x80 ≤ c.toNat) {b : UInt8} (hb : b ∈ encodeChar c) :
    0x80 ≤ b.toNat := by
  obtain ⟨hmax, -⟩ := toNat_bounds c
  have hof : ∀ {n : Nat}, n < 256 → 0x80 ≤ n → 0x80 ≤ (UInt8.ofNat n).toNat := by
    intro n hn hlow
    rwa [toNat_octet hn]
  unfold encodeChar at hb
  dsimp only at hb
  split_ifs at hb with h₁ h₂ h₃
  · omega
  all_goals
    simp only [List.mem_cons, List.not_mem_nil, or_false] at hb
  · rcases hb with rfl | rfl <;> exact hof (by omega) (by omega)
  · rcases hb with rfl | rfl | rfl <;> exact hof (by omega) (by omega)
  · rcases hb with rfl | rfl | rfl | rfl <;> exact hof (by omega) (by omega)

end IdentityApi.Utf8
