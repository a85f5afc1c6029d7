import IdentityApi.Proofs.Text.Utf8
import IdentityApi.Text.Basic
import IdentityApi.Text.Percent

/-! # What encoded and cut texts consist of

A character of an encoded text is one that is kept, or belongs to the triple of an octet; a text of
kept characters is its own encoding. Encoding a value is escaping its octets one by one. Cutting at
a character and joining with it undo each other.
-/
namespace IdentityApi

/-- Inclusions between sets of ASCII characters can be looked up. -/
theorem of_ascii {p q : Char → Bool}
    (h : ∀ n < 128, p (Char.ofNat n) = true → q (Char.ofNat n) = true) {c : Char}
    (hc : c.toNat < 128) (hp : p c = true) : q c = true := by
  have := h c.toNat hc
  rw [Char.ofNat_toNat] at this
  exact this hp

theorem toNat_lt_of_isAlphanum {c : Char} (h : c.isAlphanum = true) : c.toNat < 128 := by
  simp only [Char.isAlphanum, Char.isAlpha, Char.isUpper, Char.isLower, Char.isDigit,
    Bool.or_eq_true, Bool.and_eq_true, decide_eq_true_eq, ge_iff_le, UInt32.le_iff_toNat_le] at h
  have hc : c.val.toNat = c.toNat := rfl
  have h9 : '9'.val.toNat = 57 := rfl
  have hZ : 'Z'.val.toNat = 90 := rfl
  have hz : 'z'.val.toNat = 122 := rfl
  omega

namespace Percent

variable {keep : Char → Bool}

/-- The set holds every character that triples are written with. -/
def HoldsTriples (p : Char → Bool) : Prop :=
  p '%' = true ∧ ∀ n < 16, p (Hex.upperDigit n) = true

instance (p : Char → Bool) : Decidable (HoldsTriples p) :=
  inferInstanceAs (Decidable (p '%' = true ∧ ∀ n < 16, p (Hex.upperDigit n) = true))

theorem of_mem_encodeOctet {p : Char → Bool} (hp : HoldsTriples p) {b : UInt8} {c : Char}
    (h : c ∈ encodeOctet b) : p c = true := by
  have hb := b.toNat_lt
  simp only [encodeOctet, List.mem_cons, List.not_mem_nil, or_false] at h
  rcases h with rfl | rfl | rfl
  · exact hp.1
  · exact hp.2 _ (by omega)
  · exact hp.2 _ (by omega)

/-- A character of an encoded text was kept, or stands in a triple. -/
theorem of_mem_encode {p : Char → Bool} (hp : HoldsTriples p) {s : List Char} {c : Char}
    (h : c ∈ encode keep s) : (c ∈ s ∧ keep c = true) ∨ p c = true := by
  obtain ⟨d, hd, hc⟩ := List.mem_flatMap.mp h
  unfold encodeChar at hc
  by_cases hk : keep d = true
  · rw [if_pos hk, List.mem_singleton] at hc
    subst hc
    exact Or.inl ⟨hd, hk⟩
  · rw [if_neg hk] at hc
    obtain ⟨b, -, hb⟩ := List.mem_flatMap.mp hc
    exact Or.inr (of_mem_encodeOctet hp hb)

theorem forall_mem_encode {p : Char → Bool} (hp : HoldsTriples p)
    (hkeep : ∀ c, keep c = true → p c = true) (s : List Char) :
    ∀ c ∈ encode keep s, p c = true := by
  intro c hc
  rcases of_mem_encode hp hc with ⟨-, hk⟩ | h
  · exact hkeep c hk
  · exact h

/-- A character that is encoded itself, and in no triple, does not occur. -/
theorem not_mem_encode {c : Char} (hp : HoldsTriples (· != c)) (hc : keep c = false)
    (s : List Char) : c ∉ encode keep s := by
  intro h
  rcases of_mem_encode hp h with ⟨-, hk⟩ | h
  · rw [hc] at hk
    cases hk
  · simp at h

/-- An encoded text begins with the first character, or with a triple. -/
theorem eq_of_mem_head?_encode {s : List Char} {c : Char} (h : c ∈ (encode keep s).head?) :
    c ∈ s.head? ∨ c = '%' := by
  cases s with
  | nil => cases h
  | cons d s =>
    rw [encode_cons, encodeChar] at h
    split_ifs at h
    · exact Or.inl h
    · obtain ⟨b, l, hb⟩ := List.exists_cons_of_ne_nil (Utf8.encodeChar_ne_nil d)
      rw [hb] at h
      exact Or.inr (Option.some.inj h).symm

theorem encode_eq_self {s : List Char} (h : ∀ c ∈ s, keep c = true) : encode keep s = s := by
  induction s with
  | nil => rfl
  | cons c s ih =>
    rw [encode_cons, ih fun d hd => h d (List.mem_cons_of_mem c hd), encodeChar,
      if_pos (h c List.mem_cons_self), List.singleton_append]

/-! ## Octet by octet -/

theorem toNat_lt_of_isUnreserved {c : Char} (h : isUnreserved c = true) : c.toNat < 128 := by
  simp only [isUnreserved, Bool.or_eq_true, beq_iff_eq] at h
  rcases h with (((h | rfl) | rfl) | rfl) | rfl
  · exact toNat_lt_of_isAlphanum h
  all_goals decide

/-- The octet of an unreserved character stands for itself, every other octet in a triple. -/
def escapeOctet (b : UInt8) : List Char :=
  if isUnreserved (Char.ofUInt8 b) then [Char.ofUInt8 b] else encodeOctet b

theorem escapeOctet_of_le {b : UInt8} (h : 0x80 ≤ b.toNat) : escapeOctet b = encodeOctet b := by
  unfold escapeOctet
  apply if_neg
  intro hkeep
  have hlow := toNat_lt_of_isUnreserved hkeep
  rw [Utf8.toNat_ofUInt8] at hlow
  omega

theorem escapeOctet_ofNat {c : Char} (h : c.toNat < 0x80) :
    escapeOctet (.ofNat c.toNat) = encodeChar isUnreserved c := by
  unfold escapeOctet encodeChar
  rw [Utf8.ofUInt8_octet h, Utf8.encodeChar_of_lt h, List.flatMap_singleton]

theorem encodeChar_isUnreserved (c : Char) :
    encodeChar isUnreserved c = (Utf8.encodeChar c).flatMap escapeOctet := by
  by_cases hlow : c.toNat < 0x80
  · rw [Utf8.encodeChar_of_lt hlow, List.flatMap_singleton, escapeOctet_ofNat hlow]
  · have hreserved : ¬ isUnreserved c = true := by
      intro hkeep
      exact hlow (toNat_lt_of_isUnreserved hkeep)
    unfold encodeChar
    rw [if_neg hreserved]
    apply List.flatMap_congr
    intro b hb
    exact (escapeOctet_of_le (Utf8.le_of_mem_encodeChar (Nat.le_of_not_lt hlow) hb)).symm

/-- A value is encoded octet by octet. -/
theorem encode_isUnreserved (s : List Char) :
    encode isUnreserved s = (Utf8.encode s).flatMap escapeOctet := by
  induction s with
  | nil => rfl
  | cons c s ih =>
    rw [encode_cons, Utf8.encode_cons, List.flatMap_append, encodeChar_isUnreserved, ih]

end Percent

/-! ## Cuts -/

/-- Parts that are told by their texts, all together. -/
theorem eq_of_map_eq {α β : Type} {f : α → β} {l m : List α}
    (hf : ∀ a ∈ l, ∀ b ∈ m, f a = f b → a = b) (h : l.map f = m.map f) : l = m := by
  induction l generalizing m with
  | nil => exact (List.map_eq_nil_iff.mp h.symm).symm
  | cons a l ih =>
    cases m with
    | nil => cases h
    | cons b m =>
      rw [List.map_cons, List.map_cons, List.cons.injEq] at h
      rw [hf a List.mem_cons_self b List.mem_cons_self h.1,
        ih (fun c hc d hd => hf c (List.mem_cons_of_mem a hc) d (List.mem_cons_of_mem b hd)) h.2]

theorem splitAt_eq_splitOn (c : Char) (s : List Char) : splitAt c s = s.splitOn c := by
  induction s with
  | nil => rfl
  | cons d s ih =>
    rw [splitAt, List.splitOn_cons_eq_if_modifyHead, ih]
    cases hs : s.splitOn c with
    | nil => exact absurd hs (List.splitOn_ne_nil c s)
    | cons a rest => by_cases hd : d = c <;> simp [hd]

theorem splitAt_ne_nil (c : Char) (s : List Char) : splitAt c s ≠ [] := by
  rw [splitAt_eq_splitOn]
  exact List.splitOn_ne_nil c s

/-- No part holds the character that the text is cut at. -/
theorem not_mem_of_mem_splitAt {c : Char} {s t : List Char} (h : t ∈ splitAt c s) : c ∉ t := by
  induction s generalizing t with
  | nil => simp_all [splitAt]
  | cons d s ih =>
    rw [splitAt] at h
    cases hs : splitAt c s with
    | nil => exact absurd hs (splitAt_ne_nil c s)
    | cons u rest =>
      rw [hs] at h ih
      dsimp only at h
      split_ifs at h with hd
      · rcases List.mem_cons.mp h with rfl | h
        · exact List.not_mem_nil
        · exact ih h
      · rcases List.mem_cons.mp h with rfl | h
        · have hu := ih List.mem_cons_self
          simp [Ne.symm hd, hu]
        · exact ih (List.mem_cons_of_mem u h)

theorem splitAt_intercalate {c : Char} {l : List (List Char)} (h : ∀ s ∈ l, c ∉ s) (hl : l ≠ []) :
    splitAt c ([c].intercalate l) = l := by
  rw [splitAt_eq_splitOn, List.splitOn_intercalate c h hl]

theorem intercalate_splitAt (c : Char) (s : List Char) : [c].intercalate (splitAt c s) = s := by
  rw [splitAt_eq_splitOn, List.intercalate_splitOn]

theorem intercalate_eq_append_flatMap (c : Char) (s : List Char) (l : List (List Char)) :
    [c].intercalate (s :: l) = s ++ l.flatMap (c :: ·) := by
  induction l generalizing s with
  | nil => simp
  | cons t l ih => rw [List.intercalate_cons_cons, ih t, List.flatMap_cons]; simp

/-- A character of a joined text is a separator or a character of one of the parts. -/
theorem of_mem_intercalate {c d : Char} {l : List (List Char)} (h : d ∈ [c].intercalate l) :
    d = c ∨ ∃ s ∈ l, d ∈ s := by
  induction l with
  | nil => simp at h
  | cons s l ih =>
    cases l with
    | nil => exact Or.inr ⟨s, by simp, by simpa using h⟩
    | cons t l =>
      rw [List.intercalate_cons_cons, List.append_assoc, List.mem_append, List.singleton_append,
        List.mem_cons] at h
      rcases h with h | h | h
      · exact Or.inr ⟨s, by simp, h⟩
      · exact Or.inl h
      · rcases ih h with h | ⟨u, hu, h⟩
        · exact Or.inl h
        · exact Or.inr ⟨u, List.mem_cons_of_mem s hu, h⟩

end IdentityApi
