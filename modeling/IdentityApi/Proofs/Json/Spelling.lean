import IdentityApi.Proofs.Json.Grammar

/-! # A value's own text is read as its tree

A text spells a value when it is made of the texts of the parts with any blanks between them. If all
numbers are integers of 64 bits, such a text has the tree of the value, and so it is read as that
tree (`read_of_spells`). The text without blanks is such a text (`read_compact`).
-/
namespace IdentityApi.Json

namespace Reader

/-- A key behind its opening quote, the closing quote and the colon. -/
def keyText (k : String) (r : Octets) : Octets :=
  Utf8.encode (k.toList.flatMap Value.escape) ++ 34 :: 58 :: r

theorem stringEnd_keyText (k : String) (r : Octets) : stringEnd (keyText k r) = .ok (58 :: r) :=
  (readings_of_chars k.toList _).1

theorem stringText_keyText (k : String) (r : Octets) : stringText (keyText k r) = .ok k :=
  stringText_chars k _

theorem names_keyText {s : Octets} {k : String} {r : Octets}
    (h : skipBlanks s = 34 :: keyText k r) : Names s (.ok k) r :=
  ⟨_, _, h, stringText_keyText k r, stringEnd_keyText k r, skipBlanks_cons (by decide) r⟩

theorem encode_key (k : String) (cs : List Char) (r : Octets) :
    Utf8.encode (Value.stringText k ++ ':' :: cs) ++ r = 34 :: keyText k (Utf8.encode cs ++ r) := by
  have hcolon : Utf8.encodeChar ':' = [58] := rfl
  rw [Utf8.encode_append, List.append_assoc, encode_stringText, Utf8.encode_cons, hcolon]
  rfl

mutual

/-- A text begins with the text of a value, and `r` is left. Any blanks may stand between the parts
of the value. -/
inductive Spells : Octets → Value → Octets → Prop
  | leaf {v : Value} {r : Octets} : v.IsLeaf → Spells (Utf8.encode v.compactChars ++ r) v r
  | array {items : List Value} {s r : Octets} :
    SpellsItems s items r → Spells (91 :: s) (.array items) r
  | object {members : List (String × Value)} {s r : Octets} :
    SpellsMembers s members r → Spells (123 :: s) (.object members) r

/-- Items up to and with the closing bracket. -/
inductive SpellsItems : Octets → List Value → Octets → Prop
  | none {s r : Octets} : skipBlanks s = 93 :: r → SpellsItems s [] r
  | last {v : Value} {s u r : Octets} :
    Spells (skipBlanks s) v u → skipBlanks u = 93 :: r → SpellsItems s [v] r
  | more {v w : Value} {rest : List Value} {s u u' r : Octets} :
    Spells (skipBlanks s) v u → skipBlanks u = 44 :: u' → SpellsItems u' (w :: rest) r →
      SpellsItems s (v :: w :: rest) r

/-- Members up to and with the closing brace. -/
inductive SpellsMembers : Octets → List (String × Value) → Octets → Prop
  | none {s r : Octets} : skipBlanks s = 125 :: r → SpellsMembers s [] r
  | last {k : String} {v : Value} {s s' u r : Octets} :
    skipBlanks s = 34 :: keyText k s' → Spells (skipBlanks s') v u → skipBlanks u = 125 :: r →
      SpellsMembers s [(k, v)] r
  | more {k : String} {v : Value} {m : String × Value} {rest : List (String × Value)}
    {s s' u u' r : Octets} :
    skipBlanks s = 34 :: keyText k s' → Spells (skipBlanks s') v u → skipBlanks u = 44 :: u' →
      SpellsMembers u' (m :: rest) r → SpellsMembers s ((k, v) :: m :: rest) r

end

mutual

/-- The text of a value with whole numbers has the value's tree. -/
theorem Spells.forms {v : Value} {s r : Octets} (h : Spells s v r) (hv : v.IsWhole)
    (hr : EndsNumber r) : Forms s (.ofValue v) r := by
  cases v with
  | null =>
    cases h
    exact .leaf (b := 110) rfl
  | bool value =>
    cases h
    cases value with
    | true => exact .leaf (b := 116) rfl
    | false => exact .leaf (b := 102) rfl
  | number n =>
    cases h
    obtain ⟨b, t, htext, hleaf⟩ := exists_leaf_number hv hr
    rw [Value.compactChars, htext]
    exact .leaf hleaf
  | string t =>
    cases h
    rw [Value.compactChars, encode_stringText]
    exact .leaf (leaf?_string t r)
  | array items =>
    cases h with
    | leaf hleaf => exact hleaf.elim
    | array hitems => exact .array (hitems.forms hv)
  | object members =>
    cases h with
    | leaf hleaf => exact hleaf.elim
    | object hmembers => exact .object (hmembers.forms hv)
termination_by structural v

theorem SpellsItems.forms {vs : List Value} {s r : Octets} (h : SpellsItems s vs r)
    (hvs : Value.AreWhole vs) : FormsItems s (Tree.ofItems vs) r := by
  cases vs with
  | nil =>
    cases h with
    | none hclose => exact .none hclose
  | cons v rest =>
    cases rest with
    | nil =>
      cases h with
      | last hv hu => exact .last (hv.forms hvs.1 (endsNumber_of_skipBlanks (by simp [hu]))) hu
    | cons w rest =>
      cases h with
      | more hv hu hrest =>
        exact .more (hv.forms hvs.1 (endsNumber_of_skipBlanks (by simp [hu]))) hu
          (hrest.forms hvs.2)
termination_by structural vs

theorem SpellsMembers.forms {ms : List (String × Value)} {s r : Octets}
    (h : SpellsMembers s ms r) (hms : Value.HoldWhole ms) :
    FormsMembers s (Tree.ofMembers ms) r := by
  cases ms with
  | nil =>
    cases h with
    | none hclose => exact .none hclose
  | cons m rest =>
    obtain ⟨k, v⟩ := m
    cases rest with
    | nil =>
      cases h with
      | last hs hv hu =>
        exact .last (names_keyText hs) (hv.forms hms.1 (endsNumber_of_skipBlanks (by simp [hu]))) hu
    | cons m rest =>
      cases h with
      | more hs hv hu hrest =>
        exact .more (names_keyText hs) (hv.forms hms.1 (endsNumber_of_skipBlanks (by simp [hu]))) hu
          (hrest.forms hms.2)
termination_by structural ms

end

end Reader

/-- A text of a value with whole numbers and nothing but blanks behind it is read as the value's
tree, to the end. -/
theorem read_of_spells {v : Value} {s r : Octets} (h : Reader.Spells s v r) (hv : v.IsWhole)
    (hr : Reader.skipBlanks r = []) : read s = ⟨.ofValue v, false⟩ := by
  have hforms := h.forms hv (Reader.endsNumber_of_skipBlanks (by simp [hr]))
  exact Reader.read_of_forms (hforms.skipBlanks_eq.symm ▸ hforms) hr

namespace Reader

/-! ## Texts without blanks -/

/-- What begins a value is not skipped. -/
theorem skipBlanks_compactChars {v : Value} (hv : v.IsWhole) (r : Octets) :
    skipBlanks (Utf8.encode v.compactChars ++ r) = Utf8.encode v.compactChars ++ r := by
  obtain ⟨b, s, htext, hb⟩ := exists_text_eq hv
  rw [htext, List.cons_append, skipBlanks_cons hb.notBlank]

mutual

theorem spells_compactChars (v : Value) (hv : v.IsWhole) (r : Octets) :
    Spells (Utf8.encode v.compactChars ++ r) v r := by
  cases v with
  | null | bool b | number n | string t => exact .leaf trivial
  | array items => exact .array (spells_compactItems items hv r)
  | object members => exact .object (spells_compactMembers members hv r)
termination_by structural v

theorem spells_compactItems (vs : List Value) (hvs : Value.AreWhole vs) (r : Octets) :
    SpellsItems (Utf8.encode (Value.compactItems vs) ++ r) vs r := by
  cases vs with
  | nil => exact .none rfl
  | cons v rest =>
    have hv := fun u => skipBlanks_compactChars hvs.1 u ▸ spells_compactChars v hvs.1 u
    cases rest with
    | nil =>
      rw [Value.compactItems, Utf8.encode_append, List.append_assoc]
      exact .last (hv _) rfl
    | cons w rest =>
      rw [Value.compactItems, Utf8.encode_append, List.append_assoc]
      exact .more (hv _) rfl (spells_compactItems (w :: rest) hvs.2 r)
termination_by structural vs

theorem spells_compactMembers (ms : List (String × Value)) (hms : Value.HoldWhole ms)
    (r : Octets) : SpellsMembers (Utf8.encode (Value.compactMembers ms) ++ r) ms r := by
  cases ms with
  | nil => exact .none rfl
  | cons m rest =>
    obtain ⟨k, v⟩ := m
    have hv := fun u => skipBlanks_compactChars hms.1 u ▸ spells_compactChars v hms.1 u
    cases rest with
    | nil =>
      rw [Value.compactMembers, Utf8.encode_append, List.append_assoc, encode_key]
      exact .last (skipBlanks_cons rfl _) (hv _) rfl
    | cons m rest =>
      rw [Value.compactMembers, Utf8.encode_append, List.append_assoc, encode_key]
      exact .more (skipBlanks_cons rfl _) (hv _) rfl (spells_compactMembers (m :: rest) hms.2 r)
termination_by structural ms

end

end Reader

/-- The text of a value with whole numbers is read back as the value's tree, to the end. -/
theorem read_compact {v : Value} (h : v.IsWhole) :
    read (octetsOf v.compact) = ⟨.ofValue v, false⟩ := by
  have htext : octetsOf v.compact = Utf8.encode v.compactChars ++ [] := by
    rw [octetsOf, Value.compact, String.toList_ofList, List.append_nil]
  rw [htext]
  exact read_of_spells (Reader.spells_compactChars v h []) h rfl

end IdentityApi.Json
