import IdentityApi.Proofs.Json.Number

/-! # Steps of the reading of texts

What reading a text does with the octets before it: blanks are passed over, a leaf is read at once,
and arrays and objects are read one part after the other.
-/
namespace IdentityApi.Json

/-! ## Whole numbers -/

namespace Number

/-- An integer of 64 bits, signed or not. -/
def IsWhole : Number → Prop
  | integer n => Fits n
  | double _ => False

end Number

namespace Value

mutual

/-- All numbers of a value are integers of 64 bits. -/
def IsWhole : Value → Prop
  | null | bool _ | string _ => True
  | number n => n.IsWhole
  | array items => AreWhole items
  | object members => HoldWhole members
termination_by structural v => v

def AreWhole : List Value → Prop
  | [] => True
  | v :: rest => v.IsWhole ∧ AreWhole rest
termination_by structural l => l

def HoldWhole : List (String × Value) → Prop
  | [] => True
  | (_, v) :: rest => v.IsWhole ∧ HoldWhole rest
termination_by structural l => l

end

theorem areWhole_iff {vs : List Value} : AreWhole vs ↔ ∀ v ∈ vs, v.IsWhole := by
  induction vs with
  | nil => simp [AreWhole]
  | cons v vs ih =>
    rw [List.forall_mem_cons, ← ih]
    rfl

theorem holdWhole_iff {ms : List (String × Value)} : HoldWhole ms ↔ ∀ m ∈ ms, m.2.IsWhole := by
  induction ms with
  | nil => simp [HoldWhole]
  | cons m ms ih =>
    rw [List.forall_mem_cons, ← ih]
    rfl

end Value

namespace Reader

/-! ## First octets -/

/-- The octet begins a value: it is no blank of any kind and no closing bracket or brace. -/
structure Starts (b : UInt8) : Prop where
  printable : 32 < b.toNat
  bracket : char b ≠ ']'
  brace : char b ≠ '}'

theorem Starts.notBlank {b : UInt8} (h : Starts b) : isBlank b = false := by
  have hne : ∀ c : Char, c.toNat ≤ 32 → char b ≠ c := by
    rintro c hc rfl
    have := h.printable
    have : (char b).toNat = b.toNat := rfl
    omega
  rw [isBlank]
  simp [hne ' ' (by decide), hne '\t' (by decide), hne '\n' (by decide), hne '\r' (by decide)]

theorem skipBlanks_cons {b : UInt8} (h : isBlank b = false) (r : Octets) :
    skipBlanks (b :: r) = b :: r := by
  rw [skipBlanks, List.dropWhile_cons_of_neg (by simp [h])]

/-- An integer begins with a digit or a minus. -/
theorem exists_integer_text (n : Int) :
    ∃ c s, (Number.integer n).text = c :: s ∧ (c = '-' ∨ c.isDigit = true) := by
  obtain ⟨d, hd, -⟩ := Integer.exists_digit_mem_repr n
  obtain ⟨c, s, htext⟩ := List.exists_cons_of_ne_nil (List.ne_nil_of_mem hd)
  exact ⟨c, s, htext, Integer.eq_or_isDigit_of_mem_repr (htext ▸ List.mem_cons_self)⟩

/-- The octet that such a text begins with. -/
theorem starts_of_digit {c : Char} (h : c = '-' ∨ c.isDigit = true) :
    ∃ b, Utf8.encodeChar c = [b] ∧ char b = c ∧ Starts b := by
  have hcode : 32 < c.toNat ∧ c.toNat < 0x80 := by
    rcases h with rfl | h
    · decide
    · have := Integer.toNat_of_isDigit h
      omega
  have hchar := char_octet hcode.2
  have hne : ∀ d : Char, ¬ (d = '-' ∨ d.isDigit = true) → char (.ofNat c.toNat) ≠ d := by
    intro d hd hcd
    rw [hchar] at hcd
    exact hd (hcd ▸ h)
  refine ⟨_, Utf8.encodeChar_of_lt hcode.2, hchar, ?_, hne _ (by decide), hne _ (by decide)⟩
  rw [Utf8.toNat_octet (by omega)]
  exact hcode.1

theorem exists_text_eq {v : Value} (h : v.IsWhole) :
    ∃ b s, Utf8.encode v.compactChars = b :: s ∧ Starts b := by
  have hfirst : ∀ {b : UInt8} {c : Char} {s : List Char}, Utf8.encodeChar c = [b] → Starts b →
      ∃ b t, Utf8.encode (c :: s) = b :: t ∧ Starts b := by
    intro b c s hc hb
    exact ⟨b, Utf8.encode s, by rw [Utf8.encode_cons, hc]; rfl, hb⟩
  cases v with
  | null => exact hfirst (b := 110) rfl ⟨by decide, by decide, by decide⟩
  | bool value =>
    cases value with
    | true => exact hfirst (b := 116) rfl ⟨by decide, by decide, by decide⟩
    | false => exact hfirst (b := 102) rfl ⟨by decide, by decide, by decide⟩
  | number n =>
    cases n with
    | integer n =>
      obtain ⟨c, s, htext, hc⟩ := exists_integer_text n
      obtain ⟨b, hb, -, hstarts⟩ := starts_of_digit hc
      rw [Value.compactChars, htext]
      exact hfirst hb hstarts
    | double x => exact h.elim
  | string s => exact hfirst (b := 34) rfl ⟨by decide, by decide, by decide⟩
  | array items => exact hfirst (b := 91) rfl ⟨by decide, by decide, by decide⟩
  | object members => exact hfirst (b := 123) rfl ⟨by decide, by decide, by decide⟩

/-! ## Blanks -/

variable {fuel : Nat} {b : UInt8} {s t r : Octets}

theorem skipBlanks_append {w : Octets} (hw : ∀ b ∈ w, isBlank b = true) (s : Octets) :
    skipBlanks (w ++ s) = skipBlanks s := List.dropWhile_append_of_pos hw

theorem skipBlanks_skipBlanks (s : Octets) : skipBlanks (skipBlanks s) = skipBlanks s :=
  List.dropWhile_idempotent ..

theorem length_skipBlanks_le (s : Octets) : (skipBlanks s).length ≤ s.length :=
  (List.dropWhile_suffix _).length_le

theorem length_lt_of_skipBlanks (h : skipBlanks s = b :: r) : r.length < s.length := by
  have := length_skipBlanks_le s
  rw [h, List.length_cons] at this
  exact this

/-- A value, and so items, are read from behind the blanks. -/
theorem readValue_congr (h : skipBlanks s = skipBlanks t) :
    readValue fuel s = readValue fuel t := by
  cases fuel with
  | zero => rfl
  | succ fuel => rw [readValue, readValue, h]

theorem readItems_congr (h : skipBlanks s = skipBlanks t) :
    readItems fuel s = readItems fuel t := by
  cases fuel with
  | zero => rfl
  | succ fuel => rw [readItems, readItems, readValue_congr h]

/-! ## Steps of the reading -/

theorem readValue_leaf {found : Tree × Option Octets} (hb : isBlank b = false)
    (h : leaf? b r = some found) : readValue (fuel + 1) (b :: r) = found := by
  rw [readValue, skipBlanks_cons hb]
  simp only [h]

theorem readValue_noItems (h : skipBlanks s = 93 :: r) :
    readValue (fuel + 1) (91 :: s) = (.array [] .closed, some r) := by
  rw [readValue, skipBlanks_cons (by decide)]
  have hleaf : leaf? 91 s = none := rfl
  have hopen : char 91 = '[' := rfl
  have hclose : char 93 = ']' := rfl
  simp only [hleaf, if_pos hopen, h, if_pos hclose]

theorem readValue_array (h : skipBlanks s = b :: r) (hb : Starts b) :
    readValue (fuel + 1) (91 :: s) =
      (.array (readItems fuel s).1 (readItems fuel s).2.1, (readItems fuel s).2.2) := by
  have hitems : readItems fuel s = readItems fuel (b :: r) :=
    readItems_congr (h.trans (skipBlanks_cons hb.notBlank r).symm)
  rw [readValue, skipBlanks_cons (by decide)]
  have hleaf : leaf? 91 s = none := rfl
  have hopen : char 91 = '[' := rfl
  simp only [hleaf, if_pos hopen, h, if_neg hb.bracket, hitems]

theorem readValue_noMembers (h : skipBlanks s = 125 :: r) :
    readValue (fuel + 1) (123 :: s) = (.object [] .closed, some r) := by
  rw [readValue, skipBlanks_cons (by decide)]
  have hleaf : leaf? 123 s = none := rfl
  have hopen : char 123 = '{' := rfl
  have hnot : char 123 ≠ '[' := by decide
  have hclose : char 125 = '}' := rfl
  simp only [hleaf, if_neg hnot, if_pos hopen, h, if_pos hclose]

theorem readValue_object (h : skipBlanks s = 34 :: r) :
    readValue (fuel + 1) (123 :: s) =
      (.object (readMembers fuel r).1 (readMembers fuel r).2.1, (readMembers fuel r).2.2) := by
  rw [readValue, skipBlanks_cons (by decide)]
  have hleaf : leaf? 123 s = none := rfl
  have hopen : char 123 = '{' := rfl
  have hnot : char 123 ≠ '[' := by decide
  have hbrace : char 34 ≠ '}' := by decide
  have hquote : char 34 = '"' := rfl
  simp only [hleaf, if_neg hnot, if_pos hopen, h, if_neg hbrace, if_pos hquote]

theorem readItems_last {u : Octets} {t : Tree} (h : readValue fuel s = (t, some u))
    (hu : skipBlanks u = 93 :: r) : readItems (fuel + 1) s = ([t], .closed, some r) := by
  have hclose : char 93 = ']' := rfl
  rw [readItems, h]
  simp only [hu, if_pos hclose]

theorem readItems_more {u u' : Octets} {t : Tree} (h : readValue fuel s = (t, some u))
    (hu : skipBlanks u = 44 :: u') (hu' : skipBlanks u' = b :: r) (hb : Starts b) :
    readItems (fuel + 1) s =
      (t :: (readItems fuel u').1, (readItems fuel u').2.1, (readItems fuel u').2.2) := by
  have hitems : readItems fuel u' = readItems fuel (b :: r) :=
    readItems_congr (hu'.trans (skipBlanks_cons hb.notBlank r).symm)
  have hcomma : char 44 = ',' := rfl
  have hnot : char 44 ≠ ']' := by decide
  rw [readItems, h]
  simp only [hu, if_neg hnot, if_pos hcomma, hu', if_neg hb.bracket, hitems]

theorem readMembers_last {s' u u' : Octets} {t : Tree} (hend : stringEnd s = .ok u)
    (hcolon : skipBlanks u = 58 :: s') (h : readValue fuel s' = (t, some u'))
    (hu : skipBlanks u' = 125 :: r) :
    readMembers (fuel + 1) s = ([(stringText s, t)], .closed, some r) := by
  have hchar : ¬ char 58 ≠ ':' := by decide
  have hclose : char 125 = '}' := rfl
  rw [readMembers, hend]
  simp only [hcolon, if_neg hchar, h, hu, if_pos hclose]

theorem readMembers_more {s' u u' u'' : Octets} {t : Tree} (hend : stringEnd s = .ok u)
    (hcolon : skipBlanks u = 58 :: s') (h : readValue fuel s' = (t, some u'))
    (hu : skipBlanks u' = 44 :: u'') (hu'' : skipBlanks u'' = 34 :: r) :
    readMembers (fuel + 1) s =
      ((stringText s, t) :: (readMembers fuel r).1, (readMembers fuel r).2.1,
        (readMembers fuel r).2.2) := by
  have hchar : ¬ char 58 ≠ ':' := by decide
  have hcomma : char 44 = ',' := rfl
  have hnot : char 44 ≠ '}' := by decide
  have hbrace : char 34 ≠ '}' := by decide
  have hquote : char 34 = '"' := rfl
  rw [readMembers, hend]
  simp only [hcolon, if_neg hchar, h, hu, if_neg hnot, if_pos hcomma, hu'', if_neg hbrace,
    if_pos hquote]

/-! ## Leaves -/

theorem leaf?_string (s : String) (r : Octets) :
    leaf? 34 (Utf8.encode (s.toList.flatMap Value.escape) ++ 34 :: r) =
      some (.string (.ok s), some r) := by
  have hquote : char 34 = '"' := rfl
  rw [leaf?]
  simp only [hquote, (readings_of_chars s.toList r).1, stringText_chars]

/-- A literal is read as a leaf; the number may be too large to be had. -/
theorem leaf?_literal {c : Char} (hc : c = '-' ∨ c.isDigit = true) (hb : char b = c)
    {l : Literal} {rest : Octets} (hl : literal (b :: r) = .ok (l, rest)) :
    leaf? b r = some (.number (l.number.elim (.error .numberTooLarge) .ok), some rest) := by
  subst hb
  have hne : ∀ d : Char, ¬ (d = '-' ∨ d.isDigit = true) → char b ≠ d := by
    rintro d hd rfl
    exact hd hc
  rw [leaf?]
  dsimp only
  split
  next h => exact absurd h (hne _ (by decide))
  next h => exact absurd h (hne _ (by decide))
  next h => exact absurd h (hne _ (by decide))
  next h => exact absurd h (hne _ (by decide))
  next =>
    rw [if_pos hc, hl]
    dsimp only
    cases l.number <;> rfl

theorem leaf?_number {c : Char} (hc : c = '-' ∨ c.isDigit = true) (hb : char b = c)
    {l : Literal} {n : Number} {rest : Octets} (hl : literal (b :: r) = .ok (l, rest))
    (hn : l.number = some n) : leaf? b r = some (.number (.ok n), some rest) := by
  rw [leaf?_literal hc hb hl, hn]
  rfl

/-- A whole number is read as a leaf. -/
theorem exists_leaf_number {n : Number} (h : n.IsWhole) (hr : EndsNumber r) :
    ∃ b t, Utf8.encode n.text ++ r = b :: t ∧ leaf? b t = some (.number (.ok n), some r) := by
  cases n with
  | integer n =>
    obtain ⟨c, t, hn, hc⟩ := exists_integer_text n
    obtain ⟨l, hl, hnumber⟩ := literal_integer h hr
    obtain ⟨b, hoctet, hchar, -⟩ := starts_of_digit hc
    have hfront : Utf8.encode (Number.integer n).text = b :: Utf8.encode t := by
      rw [hn, Utf8.encode_cons, hoctet]
      rfl
    rw [hfront, List.cons_append] at hl
    exact ⟨b, _, by rw [hfront, List.cons_append], leaf?_number hc hchar hl hnumber⟩
  | double x => exact h.elim

/-! ## Ends of numbers -/

/-- A number ends where blanks, brackets, braces or commas follow, or nothing. -/
theorem endsNumber_of_skipBlanks (h : ∀ b ∈ (skipBlanks r).head?, b = 44 ∨ b = 93 ∨ b = 125) :
    EndsNumber r := by
  rintro b hb
  obtain ⟨s, rfl⟩ := List.head?_eq_some_iff.mp hb
  cases hblank : isBlank b with
  | false =>
    rw [skipBlanks_cons hblank] at h
    rcases h b rfl with rfl | rfl | rfl <;> decide
  | true =>
    simp only [isBlank, Bool.or_eq_true, beq_iff_eq] at hblank
    rw [isDigit]
    rcases hblank with ((hb | hb) | hb) | hb <;> rw [hb] <;> decide

end Reader

/-- The value has no parts. -/
def Value.IsLeaf : Value → Prop
  | .array _ | .object _ => False
  | .null | .bool _ | .number _ | .string _ => True

end IdentityApi.Json
