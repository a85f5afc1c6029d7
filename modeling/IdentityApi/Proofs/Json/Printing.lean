import IdentityApi.Proofs.Json.Spelling

/-! # Printed values are read back

The text with an item or member a line spells the value, so it is read as the value's tree, also
with a line feed at its end (`read_pretty`).
-/
namespace IdentityApi.Json

namespace Reader

theorem skipBlanks_newLine (depth : Nat) (cs : List Char) (r : Octets) :
    skipBlanks (Utf8.encode (Value.newLine depth ++ cs) ++ r) =
      skipBlanks (Utf8.encode cs ++ r) := by
  have hblank : ∀ b ∈ Utf8.encode (Value.newLine depth), isBlank b = true := by
    intro b hb
    obtain ⟨c, hc, hb⟩ := List.mem_flatMap.mp hb
    rcases List.mem_cons.mp hc with rfl | hc
    · obtain rfl := List.mem_singleton.mp hb
      rfl
    · obtain rfl := List.eq_of_mem_replicate hc
      obtain rfl := List.mem_singleton.mp hb
      rfl
  rw [Utf8.encode_append, List.append_assoc, skipBlanks_append hblank]

theorem prettyChars_of_isLeaf {v : Value} (h : v.IsLeaf) (depth : Nat) :
    v.prettyChars depth = v.compactChars := by
  cases v with
  | bool b => cases b <;> rfl
  | null | number n | string t => rfl
  | array items => exact h.elim
  | object members => exact h.elim

/-- A printed value begins with the same octet as the value's text without blanks. -/
theorem exists_prettyChars_eq {v : Value} (hv : v.IsWhole) (depth : Nat) :
    ∃ b s, Utf8.encode (v.prettyChars depth) = b :: s ∧ Starts b := by
  cases v with
  | null | bool b | number n | string t =>
    rw [prettyChars_of_isLeaf (by trivial)]
    exact exists_text_eq hv
  | array items =>
    cases items <;> exact ⟨91, _, rfl, by decide, by decide, by decide⟩
  | object members =>
    cases members <;> exact ⟨123, _, rfl, by decide, by decide, by decide⟩

theorem skipBlanks_prettyChars {v : Value} (hv : v.IsWhole) (depth : Nat) (r : Octets) :
    skipBlanks (Utf8.encode (v.prettyChars depth) ++ r) =
      Utf8.encode (v.prettyChars depth) ++ r := by
  obtain ⟨b, s, htext, hb⟩ := exists_prettyChars_eq hv depth
  rw [htext, List.cons_append, skipBlanks_cons hb.notBlank]

mutual

theorem spells_prettyChars (v : Value) (hv : v.IsWhole) (depth : Nat) (r : Octets) :
    Spells (Utf8.encode (v.prettyChars depth) ++ r) v r := by
  cases v with
  | null | bool b | number n | string t =>
    rw [prettyChars_of_isLeaf (by trivial)]
    exact .leaf trivial
  | array items =>
    cases items with
    | nil => exact .array (.none rfl)
    | cons v rest =>
      have hclose : skipBlanks (Utf8.encode (Value.newLine depth ++ [']']) ++ r) = 93 :: r :=
        skipBlanks_newLine depth [']'] r
      rw [Value.prettyChars, List.cons_append, List.cons_append, List.append_assoc,
        Utf8.encode_cons, Utf8.encode_append, List.append_assoc, List.append_assoc]
      exact .array (spells_prettyItems (v :: rest) (List.cons_ne_nil _ _) hv (depth + 1) hclose)
  | object members =>
    cases members with
    | nil => exact .object (.none rfl)
    | cons m rest =>
      have hclose : skipBlanks (Utf8.encode (Value.newLine depth ++ ['}']) ++ r) = 125 :: r :=
        skipBlanks_newLine depth ['}'] r
      rw [Value.prettyChars, List.cons_append, List.cons_append, List.append_assoc,
        Utf8.encode_cons, Utf8.encode_append, List.append_assoc, List.append_assoc]
      exact .object
        (spells_prettyMembers (m :: rest) (List.cons_ne_nil _ _) hv (depth + 1) hclose)
termination_by structural v

theorem spells_prettyItems (vs : List Value) (hne : vs ≠ []) (hvs : Value.AreWhole vs)
    (depth : Nat) {c r : Octets} (hc : skipBlanks c = 93 :: r) :
    SpellsItems (Utf8.encode (Value.prettyItems depth vs) ++ c) vs r := by
  cases vs with
  | nil => exact absurd rfl hne
  | cons v rest =>
    have hv : ∀ u, Spells (skipBlanks
        (Utf8.encode (Value.newLine depth ++ v.prettyChars depth) ++ u)) v u := by
      intro u
      rw [skipBlanks_newLine, skipBlanks_prettyChars hvs.1]
      exact spells_prettyChars v hvs.1 depth u
    cases rest with
    | nil =>
      rw [Value.prettyItems, Utf8.encode_append, List.append_assoc]
      exact .last (hv _) hc
    | cons w rest =>
      rw [Value.prettyItems, Utf8.encode_append, List.append_assoc]
      exact .more (hv _) rfl (spells_prettyItems (w :: rest) (List.cons_ne_nil _ _) hvs.2 depth hc)
termination_by structural vs

theorem spells_prettyMembers (ms : List (String × Value)) (hne : ms ≠ [])
    (hms : Value.HoldWhole ms) (depth : Nat) {c r : Octets} (hc : skipBlanks c = 125 :: r) :
    SpellsMembers (Utf8.encode (Value.prettyMembers depth ms) ++ c) ms r := by
  cases ms with
  | nil => exact absurd rfl hne
  | cons m rest =>
    obtain ⟨k, v⟩ := m
    have hkey : ∀ u, skipBlanks (Utf8.encode (Value.newLine depth ++
        (Value.stringText k ++ ':' :: ' ' :: v.prettyChars depth)) ++ u) =
        34 :: keyText k (Utf8.encode (' ' :: v.prettyChars depth) ++ u) := by
      intro u
      rw [skipBlanks_newLine, encode_key]
      exact skipBlanks_cons rfl _
    have hv : ∀ u, Spells (skipBlanks (Utf8.encode (' ' :: v.prettyChars depth) ++ u)) v u := by
      intro u
      have hblank : skipBlanks (Utf8.encode (' ' :: v.prettyChars depth) ++ u) =
          skipBlanks (Utf8.encode (v.prettyChars depth) ++ u) := rfl
      rw [hblank, skipBlanks_prettyChars hms.1]
      exact spells_prettyChars v hms.1 depth u
    cases rest with
    | nil =>
      rw [Value.prettyMembers, List.append_assoc (Value.newLine depth), Utf8.encode_append,
        List.append_assoc]
      exact .last (hkey _) (hv _) hc
    | cons m rest =>
      rw [Value.prettyMembers, List.append_assoc (Value.newLine depth), Utf8.encode_append,
        List.append_assoc]
      exact .more (hkey _) (hv _) rfl
        (spells_prettyMembers (m :: rest) (List.cons_ne_nil _ _) hms.2 depth hc)
termination_by structural ms

end

end Reader

theorem octetsOf_pretty (v : Value) :
    octetsOf (v.pretty ++ "\n") = Utf8.encode (v.prettyChars 0) ++ [10] := by
  rw [octetsOf, Value.pretty, String.toList_append, String.toList_ofList, Utf8.encode_append]
  rfl

/-- A printed value with whole numbers is read back as the value's tree, to the end. -/
theorem read_pretty {v : Value} (h : v.IsWhole) :
    read (octetsOf (v.pretty ++ "\n")) = ⟨.ofValue v, false⟩ := by
  rw [octetsOf_pretty]
  exact read_of_spells (Reader.spells_prettyChars v h 0 [10]) h rfl

end IdentityApi.Json
