import IdentityApi.Json.Reader
import IdentityApi.Proofs.Text.Utf8

/-! # Strings are read back as they were written

Between quotes a character is written as itself or as an escape. Either way both readings of a
string take it as the one character: the search for the closing quote passes it, and the content
gets its octets (`stringEnd_stringText`, `stringText_stringText`).
-/
namespace IdentityApi.Json.Reader

theorem toNat_char (b : UInt8) : (char b).toNat = b.toNat := Utf8.toNat_ofUInt8 b

theorem char_octet {c : Char} (h : c.toNat < 0x80) : char (.ofNat c.toNat) = c :=
  Utf8.ofUInt8_octet h

/-! ## Octets that stand for themselves -/

/-- No control character, no quote and no backslash. -/
structure IsPlain (b : UInt8) : Prop where
  low : ¬ b < 0x20
  quote : char b ≠ '"'
  backslash : char b ≠ '\\'

theorem stringEnd_plain {l : Octets} (h : ∀ b ∈ l, IsPlain b) (r : Octets) :
    stringEnd (l ++ r) = stringEnd r := by
  induction l with
  | nil => rfl
  | cons b l ih =>
    obtain ⟨hlow, hquote, hbackslash⟩ := h b List.mem_cons_self
    rw [List.cons_append, stringEnd.eq_def]
    dsimp only
    split
    · contradiction
    · contradiction
    · rw [if_neg hlow, ih fun d hd => h d (List.mem_cons_of_mem b hd)]

theorem stringContent_plain {l : Octets} (h : ∀ b ∈ l, IsPlain b) (r : Octets) :
    stringContent (l ++ r) = (stringContent r).map (l ++ ·) := by
  induction l with
  | nil => cases hr : stringContent r <;> simp [hr, Except.map]
  | cons b l ih =>
    obtain ⟨hlow, hquote, hbackslash⟩ := h b List.mem_cons_self
    rw [List.cons_append, stringContent.eq_def]
    dsimp only
    split
    · contradiction
    · contradiction
    · rw [if_neg hlow, ih fun d hd => h d (List.mem_cons_of_mem b hd)]
      cases stringContent r <;> rfl

/-- The octets of a character that needs no escape. -/
theorem isPlain_of_mem_encodeChar {c : Char} (hquote : c ≠ '"') (hbackslash : c ≠ '\\')
    (hlow : ¬ c.toNat < 32) {b : UInt8} (hb : b ∈ Utf8.encodeChar c) : IsPlain b := by
  by_cases hascii : c.toNat < 0x80
  · rw [Utf8.encodeChar_of_lt hascii, List.mem_singleton] at hb
    subst hb
    refine ⟨?_, ?_, ?_⟩
    · rw [UInt8.lt_iff_toNat_lt, Utf8.toNat_octet (by omega)]
      exact hlow
    · rwa [char_octet hascii]
    · rwa [char_octet hascii]
  · have hhigh := Utf8.le_of_mem_encodeChar (by omega) hb
    have hne : ∀ d : Char, d.toNat < 0x80 → char b ≠ d := by
      rintro d hd rfl
      rw [toNat_char] at hd
      omega
    refine ⟨?_, hne _ (by decide), hne _ (by decide)⟩
    rw [UInt8.lt_iff_toNat_lt]
    exact Nat.not_lt.mpr (Nat.le_trans (by decide) hhigh)

/-! ## Escapes -/

/-- What both readings make of the octets that one character is written with. -/
def ReadsAs (s : Octets) (c : Char) : Prop :=
  ∀ r, stringEnd (s ++ r) = stringEnd r ∧
    stringContent (s ++ r) = (stringContent r).map (Utf8.encodeChar c ++ ·)

theorem readsAs_letter {e : UInt8} {b : UInt8} {c : Char} (he : simpleEscape e = some b)
    (hu : char e ≠ 'u') (hc : Utf8.encodeChar c = [b]) : ReadsAs [92, e] c := by
  intro r
  constructor
  · rw [List.cons_append, List.cons_append, List.nil_append, stringEnd.eq_def]
    change (if char e = 'u' then _ else if (simpleEscape e).isSome then stringEnd r else _) = _
    rw [if_neg hu, if_pos (by rw [he]; rfl)]
  · rw [List.cons_append, List.cons_append, List.nil_append, stringContent.eq_def]
    have hback : char 92 = '\\' := rfl
    simp only [hback, if_neg hu, he, hc, List.singleton_append]

theorem readsAs_code {w x y z : UInt8} {c : Char} (hn : hexFour w x y z = some c.toNat)
    (hc : c.toNat < 0xD800) : ReadsAs [92, 117, w, x, y, z] c := by
  intro r
  simp only [List.cons_append, List.nil_append]
  constructor
  · have hsome : (hexFour w x y z).isSome = true := by
      rw [hn]
      rfl
    rw [stringEnd.eq_def]
    exact if_pos hsome
  · rw [stringContent.eq_def]
    have hback : char 92 = '\\' := rfl
    have hletter : char 117 = 'u' := rfl
    simp only [hback, if_pos hletter, hn, if_pos (Or.inl hc : c.toNat < 0xD800 ∨ _),
      Char.ofNat_toNat]

theorem hexFour_digits {n : Nat} (h : n < 32) :
    hexFour 48 48 (.ofNat (Hex.digit (n / 16)).toNat) (.ofNat (Hex.digit (n % 16)).toNat) =
      some n := by
  have hall : ∀ n < 32, hexFour 48 48 (.ofNat (Hex.digit (n / 16)).toNat)
      (.ofNat (Hex.digit (n % 16)).toNat) = some n := by
    decide
  exact hall n h

theorem readsAs_escape (c : Char) : ReadsAs (Utf8.encode (Value.escape c)) c := by
  unfold Value.escape
  split_ifs with hquote hbackslash hn hr ht hb hf hlow
  · subst hquote
    exact readsAs_letter (e := 34) rfl (by decide) rfl
  · subst hbackslash
    exact readsAs_letter (e := 92) rfl (by decide) rfl
  · subst hn
    exact readsAs_letter (e := 110) rfl (by decide) rfl
  · subst hr
    exact readsAs_letter (e := 114) rfl (by decide) rfl
  · subst ht
    exact readsAs_letter (e := 116) rfl (by decide) rfl
  · obtain rfl : c = Char.ofNat 8 := by rw [← hb, Char.ofNat_toNat]
    exact readsAs_letter (e := 98) rfl (by decide) rfl
  · obtain rfl : c = Char.ofNat 12 := by rw [← hf, Char.ofNat_toNat]
    exact readsAs_letter (e := 102) rfl (by decide) rfl
  · have hdigit : ∀ n < 16, (Hex.digit n).toNat < 0x80 := by decide
    have htext : Utf8.encode ['\\', 'u', '0', '0', Hex.digit (c.toNat / 16),
        Hex.digit (c.toNat % 16)] = [92, 117, 48, 48, .ofNat (Hex.digit (c.toNat / 16)).toNat,
          .ofNat (Hex.digit (c.toNat % 16)).toNat] := by
      have hhi := Utf8.encodeChar_of_lt (hdigit (c.toNat / 16) (by omega))
      have hlo := Utf8.encodeChar_of_lt (hdigit (c.toNat % 16) (by omega))
      simp only [Utf8.encode_cons, Utf8.encode_nil, hhi, hlo]
      rfl
    rw [htext]
    exact readsAs_code (hexFour_digits hlow) (by omega)
  · have hplain : ∀ b ∈ Utf8.encodeChar c, IsPlain b :=
      fun b => isPlain_of_mem_encodeChar hquote hbackslash hlow
    intro r
    rw [Utf8.encode_cons, Utf8.encode_nil, List.append_nil]
    exact ⟨stringEnd_plain hplain r, stringContent_plain hplain r⟩

/-! ## Whole strings -/

theorem readings_of_chars (s : List Char) (r : Octets) :
    stringEnd (Utf8.encode (s.flatMap Value.escape) ++ 34 :: r) = .ok r ∧
      stringContent (Utf8.encode (s.flatMap Value.escape) ++ 34 :: r) = .ok (Utf8.encode s) := by
  induction s with
  | nil =>
    rw [List.flatMap_nil, Utf8.encode_nil, List.nil_append, stringEnd.eq_def, stringContent.eq_def]
    exact ⟨rfl, rfl⟩
  | cons c s ih =>
    rw [List.flatMap_cons, Utf8.encode_append, List.append_assoc, (readsAs_escape c _).1,
      (readsAs_escape c _).2, ih.1, ih.2, Utf8.encode_cons]
    exact ⟨rfl, rfl⟩

theorem encode_stringText (s : String) (r : Octets) :
    Utf8.encode (Value.stringText s) ++ r =
      34 :: (Utf8.encode (s.toList.flatMap Value.escape) ++ 34 :: r) := by
  have hquote : Utf8.encodeChar '"' = [34] := rfl
  rw [Value.stringText, List.cons_append, Utf8.encode_cons, Utf8.encode_append, Utf8.encode_cons,
    Utf8.encode_nil, hquote]
  simp

theorem stringText_chars (s : String) (r : Octets) :
    stringText (Utf8.encode (s.toList.flatMap Value.escape) ++ 34 :: r) = .ok s := by
  rw [stringText, (readings_of_chars s.toList r).2]
  dsimp only
  rw [Utf8.decode?_encode]
  dsimp only
  rw [String.ofList_toList]

end IdentityApi.Json.Reader
