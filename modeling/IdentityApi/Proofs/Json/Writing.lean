import IdentityApi.Proofs.Json.Double
import IdentityApi.Proofs.Json.Parts

/-! # The text of every value is a text

Whatever numbers it holds and whatever keys its objects have, a value is written as a JSON text: the
text of an array is made of the texts of its items, the text of an object of its members, each under
its key and in their order (`exists_isText_object`). A key that an object has twice is written twice.
-/
namespace IdentityApi.Json

open Reader

/-! ## Values part by part -/

/-- What holds of a value as soon as it holds of its parts holds of all values. -/
@[elab_as_elim]
theorem Value.byParts {P : Value → Prop} (leaf : ∀ v, v.IsLeaf → P v)
    (array : ∀ items, (∀ v ∈ items, P v) → P (array items))
    (object : ∀ members, (∀ m ∈ members, P m.2) → P (object members)) (v : Value) : P v := by
  refine @Value.rec P (fun items => ∀ v ∈ items, P v) (fun members => ∀ m ∈ members, P m.2)
    (fun m => P m.2) (leaf _ trivial) (fun _ => leaf _ trivial) (fun _ => leaf _ trivial)
    (fun _ => leaf _ trivial) array object nofun ?_ nofun ?_ (fun _ _ h => h) v
  · intro v items hv hitems
    exact List.forall_mem_cons.mpr ⟨hv, hitems⟩
  · intro m members hm hmembers
    exact List.forall_mem_cons.mpr ⟨hm, hmembers⟩

/-- A member as it is written. -/
def Field.ofMember (m : String × Value) : Field :=
  ⟨m.1, Utf8.encode (Value.stringText m.1), octetsOf m.2.compact⟩

theorem octetsOf_compact (v : Value) : octetsOf v.compact = Utf8.encode v.compactChars := by
  rw [octetsOf, Value.compact, String.toList_ofList]

theorem encode_compactItems (items : List Value) : Utf8.encode (Value.compactItems items) =
    [44].intercalate (items.map fun v => octetsOf v.compact) ++ [93] := by
  induction items with
  | nil => rfl
  | cons v rest ih =>
    cases rest with
    | nil =>
      rw [Value.compactItems, Utf8.encode_append, ← octetsOf_compact, List.map_singleton,
        List.intercalate_singleton]
      rfl
    | cons w rest =>
      have hcomma : Utf8.encodeChar ',' = [44] := rfl
      simp only [List.map_cons] at ih ⊢
      rw [Value.compactItems, Utf8.encode_append, ← octetsOf_compact, Utf8.encode_cons, hcomma, ih,
        List.intercalate_cons_cons]
      simp only [List.append_assoc]

theorem text_ofMember (k : String) (v : Value) :
    (Field.ofMember (k, v)).text = Utf8.encode (Value.stringText k ++ ':' :: v.compactChars) := by
  have hcolon : Utf8.encodeChar ':' = [58] := rfl
  rw [Field.text, Field.ofMember, Utf8.encode_append, Utf8.encode_cons, hcolon, octetsOf_compact]
  rfl

theorem encode_compactMembers (ms : List (String × Value)) :
    Utf8.encode (Value.compactMembers ms) =
      [44].intercalate ((ms.map Field.ofMember).map Field.text) ++ [125] := by
  induction ms with
  | nil => rfl
  | cons m rest ih =>
    obtain ⟨k, v⟩ := m
    cases rest with
    | nil =>
      rw [Value.compactMembers, Utf8.encode_append, ← text_ofMember, List.map_singleton,
        List.map_singleton, List.intercalate_singleton]
      rfl
    | cons m rest =>
      have hcomma : Utf8.encodeChar ',' = [44] := rfl
      simp only [List.map_cons] at ih ⊢
      rw [Value.compactMembers, Utf8.encode_append, ← text_ofMember, Utf8.encode_cons, hcomma, ih,
        List.intercalate_cons_cons]
      simp only [List.append_assoc]

/-! ## Texts -/

theorem isArrayOf_compact (items : List Value) :
    IsArrayOf (items.map fun v => octetsOf v.compact) (octetsOf (Value.array items).compact) := by
  have htext : octetsOf (Value.array items).compact =
      91 :: ([44].intercalate (items.map fun v => octetsOf v.compact) ++ [93]) := by
    rw [← encode_compactItems, octetsOf_compact]
    rfl
  rw [htext]
  exact @IsArrayOf.intro _ [] [] [] rfl rfl rfl

theorem isObjectOf_compact (ms : List (String × Value)) :
    IsObjectOf (ms.map Field.ofMember) (octetsOf (Value.object ms).compact) := by
  have htext : octetsOf (Value.object ms).compact =
      123 :: ([44].intercalate ((ms.map Field.ofMember).map Field.text) ++ [125]) := by
    rw [← encode_compactMembers, octetsOf_compact]
    rfl
  rw [htext]
  exact @IsObjectOf.intro _ [] [] [] rfl rfl rfl

theorem isText_key (k : String) : IsText (Utf8.encode (Value.stringText k)) (.string (.ok k)) := by
  have htext := encode_stringText k []
  rw [List.append_nil] at htext
  rw [htext]
  exact ⟨[], .leaf (leaf?_string k []), rfl⟩

theorem holds_ofMember {m : String × Value} {t : Tree} (h : IsText (octetsOf m.2.compact) t) :
    (Field.ofMember m).Holds t :=
  ⟨isText_key m.1, h⟩

theorem Reader.Forms.isText_compact {v : Value} {t : Tree}
    (h : Forms (Utf8.encode v.compactChars) t []) : IsText (octetsOf v.compact) t := by
  rw [octetsOf_compact]
  exact ⟨[], h.skipBlanks_eq.symm ▸ h, rfl⟩

/-- A value with whole numbers is written as the text of its own tree. -/
theorem isText_compact {v : Value} (h : v.IsWhole) : IsText (octetsOf v.compact) (.ofValue v) := by
  have hforms := (spells_compactChars v h []).forms h nofun
  rw [List.append_nil] at hforms
  exact hforms.isText_compact

/-- The tree is that of the value's own text. -/
def IsTreeOf (t : Tree) (v : Value) : Prop := IsText (octetsOf v.compact) t

theorem isTreeOf_iff {t : Tree} {v : Value} (h : v.IsWhole) : IsTreeOf t v ↔ t = .ofValue v :=
  ⟨fun ht => ht.tree_eq (isText_compact h), fun ht => ht ▸ isText_compact h⟩

theorem exists_isTreeOf_leaf {v : Value} (h : v.IsLeaf) : ∃ t, IsTreeOf t v := by
  cases v with
  | null | bool _ | string _ => exact ⟨_, isText_compact trivial⟩
  | number n =>
    obtain ⟨b, t, found, htext, hleaf⟩ := exists_leaf_text n (r := []) nofun
    rw [List.append_nil] at htext
    refine ⟨.number found, Forms.isText_compact ?_⟩
    rw [Value.compactChars, htext]
    exact .leaf hleaf
  | array items => exact h.elim
  | object members => exact h.elim

/-- Every value is written as a text. -/
theorem exists_isTreeOf (v : Value) : ∃ t, IsTreeOf t v := by
  induction v using Value.byParts with
  | leaf v h => exact exists_isTreeOf_leaf h
  | array items ih =>
    have : Nonempty Tree := ⟨.null⟩
    choose! tree htree using ih
    have hitems : List.Forall₂ IsText (items.map fun v => octetsOf v.compact) (items.map tree) := by
      rw [List.forall₂_map_left_iff, List.forall₂_map_right_iff, List.forall₂_same]
      exact htree
    exact ⟨_, (isArrayOf_compact items).isText hitems⟩
  | object members ih =>
    have : Nonempty Tree := ⟨.null⟩
    choose! tree htree using ih
    have hmembers : List.Forall₂ Field.Holds (members.map Field.ofMember) (members.map tree) := by
      rw [List.forall₂_map_left_iff, List.forall₂_map_right_iff, List.forall₂_same]
      exact fun m hm => holds_ofMember (htree m hm)
    exact ⟨_, (isObjectOf_compact members).isText hmembers⟩

/-- An object is written with all its members in their order, each under its key and as its value's
own text. -/
theorem exists_isText_object (ms : List (String × Value)) : ∃ members,
    IsText (octetsOf (Value.object ms).compact) (.object members .closed) ∧
      List.Forall₂ (Tree.Says IsTreeOf) members ms := by
  choose tree htree using exists_isTreeOf
  have hholds : List.Forall₂ Field.Holds (ms.map Field.ofMember) (ms.map fun m => tree m.2) := by
    rw [List.forall₂_map_left_iff, List.forall₂_map_right_iff, List.forall₂_same]
    exact fun m _ => holds_ofMember (htree m.2)
  refine ⟨_, (isObjectOf_compact ms).isText hholds, ?_⟩
  rw [List.zipWith_map, List.zipWith_self, List.forall₂_map_left_iff, List.forall₂_same]
  exact fun m _ => ⟨rfl, htree m.2⟩

end IdentityApi.Json
