import IdentityApi.Proofs.Codec.Filling

/-! # Decoding ignores the order of members

A codec ignores order when it reads a value with sorted members as it read the value. The simple
codecs do, for they read nothing that has members; a free value that was read is sorted already; and
options, lists, maps and records of such codecs ignore order as well. A key that an object has
twice makes no difference: a record refuses it, and otherwise the last member counts both times.
-/
namespace IdentityApi

open Json (Tree Value ok_of_bind ok_of_map)
open Json.Tree (named)

/-! ## Sorted values -/

namespace Json.Value

theorem sortedItems_eq_map (vs : List Value) : sortedItems vs = vs.map sorted := by
  induction vs with
  | nil => rfl
  | cons v vs ih => exact congrArg (v.sorted :: ·) ih

theorem sortedMembers_eq_map (ms : List (String × Value)) :
    sortedMembers ms = ms.map fun m => (m.1, m.2.sorted) := by
  induction ms with
  | nil => rfl
  | cons m ms ih => exact congrArg ((m.1, m.2.sorted) :: ·) ih

theorem sorted_of_isLeaf {v : Value} (h : v.IsLeaf) : v.sorted = v := by
  cases v with
  | array items => exact h.elim
  | object members => exact h.elim
  | _ => rfl

theorem sorted_ne_null {v : Value} (h : v ≠ .null) : v.sorted ≠ .null := by
  cases v with
  | null => exact absurd rfl h
  | _ => simp [sorted]

mutual

theorem isWhole_sorted (v : Value) (hv : v.IsWhole) : v.sorted.IsWhole := by
  cases v with
  | array items => exact areWhole_sortedItems items hv
  | object members =>
    refine holdWhole_iff.mpr fun m hm => ?_
    exact holdWhole_iff.mp (holdWhole_sortedMembers members hv) m (KeyMap.mem_of_mem_ofPairs hm)
  | null | bool b | number n | string s => exact hv
termination_by structural v

theorem areWhole_sortedItems (vs : List Value) (hvs : AreWhole vs) :
    AreWhole (sortedItems vs) := by
  cases vs with
  | nil => trivial
  | cons v rest => exact ⟨isWhole_sorted v hvs.1, areWhole_sortedItems rest hvs.2⟩
termination_by structural vs

theorem holdWhole_sortedMembers (ms : List (String × Value)) (hms : HoldWhole ms) :
    HoldWhole (sortedMembers ms) := by
  cases ms with
  | nil => trivial
  | cons m rest =>
    exact ⟨isWhole_sorted m.2 hms.1, holdWhole_sortedMembers rest hms.2⟩
termination_by structural ms

end

/-! ## Free values -/

mutual

/-- Reading a free value sorts it. -/
theorem eq_sorted_of_value (v : Value) {depth : Nat} {w : Value}
    (h : (Tree.ofValue v).value depth = .ok w) : w = v.sorted := by
  cases v with
  | null | bool b | number n | string s =>
    cases h
    rfl
  | array items =>
    cases depth with
    | zero => cases h
    | succ d =>
      obtain ⟨ws, hws, h⟩ := ok_of_bind h
      cases h
      rw [eq_sortedItems_of_values items hws, sorted]
  | object members =>
    cases depth with
    | zero => cases h
    | succ d =>
      obtain ⟨ns, hns, h⟩ := ok_of_bind h
      cases h
      rw [eq_sortedMembers_of_memberValues members hns, sorted]
termination_by structural v

theorem eq_sortedItems_of_values (vs : List Value) {depth : Nat} {ws : List Value}
    (h : Tree.values depth (Tree.ofItems vs) = .ok ws) : ws = sortedItems vs := by
  cases vs with
  | nil =>
    cases h
    rfl
  | cons v rest =>
    obtain ⟨w, hw, h⟩ := ok_of_bind h
    obtain ⟨ws, hws, h⟩ := ok_of_bind h
    cases h
    rw [eq_sorted_of_value v hw, eq_sortedItems_of_values rest hws, sortedItems]
termination_by structural vs

theorem eq_sortedMembers_of_memberValues (ms : List (String × Value)) {depth : Nat}
    {ns : List (String × Value)} (h : Tree.memberValues depth (Tree.ofMembers ms) = .ok ns) :
    ns = sortedMembers ms := by
  cases ms with
  | nil =>
    cases h
    rfl
  | cons m rest =>
    obtain ⟨k, v⟩ := m
    obtain ⟨_, hk, h⟩ := ok_of_bind h
    cases hk
    obtain ⟨w, hw, h⟩ := ok_of_bind h
    obtain ⟨ns, hns, h⟩ := ok_of_bind h
    cases h
    rw [eq_sorted_of_value v hw, eq_sortedMembers_of_memberValues rest hns, sortedMembers]
termination_by structural ms

end

end Json.Value

namespace Json.Tree

mutual

/-- Everything in the tree of a value can be passed over. -/
theorem skip_ofValue (v : Value) : (ofValue v).skip = .ok () := by
  cases v with
  | array items => exact skip_array (skip_ofItems items) rfl
  | object members => exact skip_object (skip_ofMembers members) rfl
  | null | bool b | number n | string s => rfl
termination_by structural v

theorem skip_ofItems (vs : List Value) : skipItems (ofItems vs) = .ok () := by
  cases vs with
  | nil => rfl
  | cons v rest => exact skipItems_cons (skip_ofValue v) (skip_ofItems rest)
termination_by structural vs

theorem skip_ofMembers (ms : List (String × Value)) : skipMembers (ofMembers ms) = .ok () := by
  cases ms with
  | nil => rfl
  | cons m rest => exact skipMembers_cons (skip_ofValue m.2) (skip_ofMembers rest)
termination_by structural ms

end

end Json.Tree

namespace Codec

variable {α β : Type} {c : Codec α}

/-- A value with sorted members is decoded as the value was. -/
def IgnoresOrder (c : Codec α) : Prop :=
  ∀ ⦃d : Nat⦄ ⦃v : Value⦄ ⦃a : α⦄, v.IsWhole → c.decode d (.ofValue v) = .ok a →
    c.decode d (.ofValue v.sorted) = .ok a

/-! ## Simple codecs -/

theorem ignoresOrder_of_isLeaf
    (h : ∀ {d : Nat} {v : Value} {a : α}, c.decode d (.ofValue v) = .ok a → v.IsLeaf) :
    c.IgnoresOrder := by
  intro d v a _ ha
  rw [Value.sorted_of_isLeaf (h ha)]
  exact ha

theorem isLeaf_of_ofText {expected : String} {parse : String → Except Fault α} {v : Value} {a : α}
    (h : ofText expected parse (.ofValue v) = .ok a) : v.IsLeaf := by
  cases v with
  | array items => cases h
  | object members => cases h
  | _ => trivial

theorem isLeaf_of_ofInteger {expected : String} {low high : Int} {make : Int → α} {v : Value}
    {a : α} (h : ofInteger expected low high make (.ofValue v) = .ok a) : v.IsLeaf := by
  cases v with
  | array items => cases h
  | object members => cases h
  | _ => trivial

@[simp] theorem ignoresOrder_string : string.IgnoresOrder := ignoresOrder_of_isLeaf isLeaf_of_ofText

@[simp] theorem ignoresOrder_uuid : uuid.IgnoresOrder := ignoresOrder_of_isLeaf isLeaf_of_ofText

@[simp] theorem ignoresOrder_timestamp : timestamp.IgnoresOrder :=
  ignoresOrder_of_isLeaf isLeaf_of_ofText

@[simp] theorem ignoresOrder_int64 : int64.IgnoresOrder :=
  ignoresOrder_of_isLeaf isLeaf_of_ofInteger

@[simp] theorem ignoresOrder_uint64 : uint64.IgnoresOrder :=
  ignoresOrder_of_isLeaf isLeaf_of_ofInteger

@[simp] theorem ignoresOrder_bool : bool.IgnoresOrder := by
  apply ignoresOrder_of_isLeaf
  intro d v a h
  cases v with
  | array items => cases h
  | object members => cases h
  | _ => trivial

@[simp] theorem ignoresOrder_value : value.IgnoresOrder := by
  intro d v a _ h
  have hread := ok_of_liftJson h
  obtain rfl := Value.eq_sorted_of_value v hread
  change liftJson (Tree.value d (.ofValue v.sorted)) = _
  rw [Value.value_ofValue_of_value _ hread]
  rfl

/-- A choice in the form of an object has one member, which is null. -/
theorem eq_of_decodeNamed [Choice α] {ms : List (String × Value)} {a : α}
    (h : decodeNamed α (Tree.ofMembers ms) .closed = .ok a) : ∃ k, ms = [(k, .null)] := by
  cases ms with
  | nil => cases h
  | cons m rest =>
    obtain ⟨k, v⟩ := m
    obtain ⟨_, -, h⟩ := ok_of_bind h
    obtain ⟨b, -, h⟩ := ok_of_bind h
    obtain ⟨⟨⟩, hnull, h⟩ := ok_of_bind h
    cases rest with
    | nil =>
      cases v with
      | null => exact ⟨k, rfl⟩
      | _ => cases hnull
    | cons m' rest => cases h

@[simp] theorem ignoresOrder_choice [Choice α] : (choice α).IgnoresOrder := by
  intro d v a _ h
  cases v with
  | object members =>
    cases d with
    | zero => cases h
    | succ d =>
      obtain ⟨k, rfl⟩ := eq_of_decodeNamed h
      exact h
  | array items => cases h
  | _ => exact h

/-! ## Codecs of other codecs -/

@[simp] theorem ignoresOrder_nullable (hc : c.IgnoresOrder) : (nullable c).IgnoresOrder := by
  intro d v a hv h
  by_cases hnull : v = .null
  · subst hnull
    exact h
  · rw [decode_nullable (ofValue_ne_null hnull)] at h
    obtain ⟨b, hb, rfl⟩ := ok_of_map h
    rw [decode_nullable (ofValue_ne_null (Value.sorted_ne_null hnull)), hc hv hb]
    rfl

theorem ignoresOrder_map {f : α → β} {g : β → α} (hc : c.IgnoresOrder) :
    (c.map f g).IgnoresOrder := by
  intro d v b hv h
  obtain ⟨a, ha, rfl⟩ := ok_of_map h
  exact congrArg (Except.map f) (hc hv ha)

/-! ## Lists -/

theorem decode_list_iff_forall₂ {d : Nat} {vs : List Value} {as : List α} :
    (list c).decode (d + 1) (.ofValue (.array vs)) = .ok as ↔
      List.Forall₂ (fun v a => c.decode d (.ofValue v) = .ok a) vs as := by
  rw [Tree.ofValue, decode_list_iff, Tree.ofItems_eq_map, List.forall₂_map_left_iff]

@[simp] theorem ignoresOrder_list (hc : c.IgnoresOrder) : (list c).IgnoresOrder := by
  intro d v as hv h
  cases v with
  | array items =>
    cases d with
    | zero => cases h
    | succ d =>
      rw [decode_list_iff_forall₂] at h
      rw [Value.sorted, Value.sortedItems_eq_map, decode_list_iff_forall₂,
        List.forall₂_map_left_iff]
      exact ((List.forall₂_and_left items as).mpr ⟨Value.areWhole_iff.mp hv, h⟩).imp
        fun v a hva => hc hva.1 hva.2
  | null | bool b | number n | string s => cases h
  | object members => cases h

/-! ## Maps with any keys -/

theorem decodeMembers_ofMembers_iff {d : Nat} {ms : List (String × Value)}
    {as : List (String × α)} :
    decodeMembers c d (Tree.ofMembers ms) = .ok as ↔
      List.Forall₂ (KeyMap.Together fun v a => c.decode d (.ofValue v) = .ok a) ms as := by
  induction ms generalizing as with
  | nil => simp [Tree.ofMembers, decodeMembers, eq_comm]
  | cons m ms ih =>
    obtain ⟨k, v⟩ := m
    rw [List.forall₂_cons_left_iff]
    constructor
    · intro h
      obtain ⟨_, hk, h⟩ := ok_of_bind h
      cases hk
      obtain ⟨a, ha, h⟩ := ok_of_bind h
      obtain ⟨bs, hbs, h⟩ := ok_of_bind h
      cases h
      exact ⟨(k, a), bs, ⟨rfl, ha⟩, ih.mp hbs, rfl⟩
    · rintro ⟨⟨_, a⟩, bs, ⟨rfl, ha⟩, hbs, rfl⟩
      refine Json.bind_eq_ok_iff.mpr ⟨k, rfl, Json.bind_eq_ok_iff.mpr ⟨a, ha, ?_⟩⟩
      exact Json.bind_eq_ok_iff.mpr ⟨bs, ih.mpr hbs, rfl⟩

@[simp] theorem ignoresOrder_keyed (hc : c.IgnoresOrder) : (keyed c).IgnoresOrder := by
  intro d v m hv h
  cases v with
  | object members =>
    cases d with
    | zero => cases h
    | succ d =>
      obtain ⟨as, has, h⟩ := ok_of_bind h
      cases h
      have htogether := decodeMembers_ofMembers_iff.mp has
      have hsorted : List.Forall₂ (KeyMap.Together fun v a => c.decode d (.ofValue v) = .ok a)
          (Value.sortedMembers members) as := by
        rw [Value.sortedMembers_eq_map, List.forall₂_map_left_iff]
        exact ((List.forall₂_and_left members as).mpr ⟨Value.holdWhole_iff.mp hv, htogether⟩).imp
          fun p q hpq => ⟨hpq.2.1, hc hpq.1 hpq.2.2⟩
      have hread := decodeMembers_ofMembers_iff.mpr (KeyMap.forall₂_ofPairs hsorted)
      refine Json.bind_eq_ok_iff.mpr ⟨_, hread, ?_⟩
      exact congrArg Except.ok (KeyMap.ofPairs as).ofPairs_pairs
  | null | bool b | number n | string s => cases h
  | array items => cases h

/-! ## Records -/

variable {cs : List Column}

theorem named_ofMembers (name : String) (ms : List (String × Value)) :
    named name (Tree.ofMembers ms) =
      (ms.filter fun m => m.1 == name).map fun m => .ofValue m.2 := by
  induction ms with
  | nil => rfl
  | cons m ms ih =>
    rw [Tree.ofMembers, named, List.filter_cons, ih]
    by_cases hname : m.1 = name <;> simp [hname]

/-- A column is filled from sorted members as from the members. -/
theorem Column.isFilled_sortedMembers {c : Column} (hc : c.codec.IgnoresOrder) {d : Nat}
    {ms : List (String × Value)} (hms : Value.HoldWhole ms) {a : c.Carrier}
    (h : c.IsFilled d (named c.name (Tree.ofMembers ms)) a) :
    c.IsFilled d
      (named c.name (Tree.ofMembers (KeyMap.ofPairs (Value.sortedMembers ms)).pairs)) a := by
  rw [named_ofMembers] at h
  rw [named_ofMembers, KeyMap.filter_ofPairs, Value.sortedMembers_eq_map, List.filter_map]
  change c.IsFilled d (((ms.filter fun m => m.1 == c.name).map fun m =>
    (m.1, m.2.sorted)).getLast?.toList.map fun m => Tree.ofValue m.2) a
  cases hfound : ms.filter fun m => m.1 == c.name with
  | nil =>
    rw [hfound] at h
    exact h
  | cons m rest =>
    rw [hfound, List.map_cons] at h
    obtain ⟨ha, hrest⟩ := isFilled_cons_iff.mp h
    obtain rfl := List.map_eq_nil_iff.mp hrest
    have hm : m ∈ ms := (List.mem_filter.mp (hfound ▸ List.mem_cons_self)).1
    exact .read (hc (Value.holdWhole_iff.mp hms m hm) ha)

theorem Row.isNamed_sortedMembers (hcs : ∀ c ∈ cs, c.codec.IgnoresOrder) {d : Nat}
    {ms : List (String × Value)} (hms : Value.HoldWhole ms) {r : Row cs}
    (h : IsNamed d (Tree.ofMembers ms) cs r) :
    IsNamed d (Tree.ofMembers (KeyMap.ofPairs (Value.sortedMembers ms)).pairs) cs r := by
  induction cs with
  | nil => trivial
  | cons c cs ih =>
    obtain ⟨a, r⟩ := r
    obtain ⟨hc, hcs⟩ := List.forall_mem_cons.mp hcs
    exact ⟨Column.isFilled_sortedMembers hc hms h.1, ih hcs h.2⟩

theorem Row.isInOrder_sortedItems (hcs : ∀ c ∈ cs, c.codec.IgnoresOrder) {d : Nat}
    {vs : List Value} (hvs : Value.AreWhole vs) {r : Row cs}
    (h : IsInOrder d cs (Tree.ofItems vs) r) :
    IsInOrder d cs (Tree.ofItems (Value.sortedItems vs)) r := by
  induction cs generalizing vs with
  | nil =>
    cases vs with
    | nil => rfl
    | cons v rest => cases h
  | cons c cs ih =>
    obtain ⟨a, r⟩ := r
    obtain ⟨hc, hcs⟩ := List.forall_mem_cons.mp hcs
    cases vs with
    | nil => exact h
    | cons v rest =>
      obtain ⟨hfilled, hrest⟩ := h
      obtain ⟨ha, -⟩ := Column.isFilled_cons_iff.mp hfilled
      exact ⟨.read (hc hvs.1 ha), ih hcs hvs.2 hrest⟩

theorem Slots.isReadable_ofMembers (ms : List (String × Value)) :
    IsReadable (Tree.ofMembers ms) := by
  intro m hm
  rw [Tree.ofMembers_eq_map] at hm
  obtain ⟨p, -, rfl⟩ := List.mem_map.mp hm
  exact ⟨⟨p.1, rfl⟩, Tree.skip_ofValue p.2⟩

theorem ignoresOrder_row {record : String} (hnodup : (cs.map Column.name).Nodup)
    (hstrict : ∀ c ∈ cs, c.codec.IsStrict) (hcs : ∀ c ∈ cs, c.codec.IgnoresOrder) :
    (row record cs).IgnoresOrder := by
  intro d v r hv h
  cases v with
  | object members =>
    cases d with
    | zero => cases h
    | succ d =>
      obtain ⟨-, hnamed⟩ := (decode_row_object_iff hnodup hstrict).mp h
      exact (decode_row_object_iff hnodup hstrict).mpr
        ⟨Slots.isReadable_ofMembers _, Row.isNamed_sortedMembers hcs hv hnamed⟩
  | array items =>
    cases d with
    | zero => cases h
    | succ d =>
      exact decode_row_array_iff.mpr (Row.isInOrder_sortedItems hcs hv (decode_row_array_iff.mp h))
  | null | bool b | number n | string s => cases h

theorem ignoresOrder_record {record : String} {f : Row cs → β} {g : β → Row cs}
    (hnodup : (cs.map Column.name).Nodup)
    (hcs : ∀ c ∈ cs, c.codec.IsStrict ∧ c.codec.IgnoresOrder) :
    ((row record cs).map f g).IgnoresOrder :=
  ignoresOrder_map
    (ignoresOrder_row hnodup (fun c hc => (hcs c hc).1) fun c hc => (hcs c hc).2)

section Columns

variable {name : String}

@[simp] theorem ignoresOrder_required (hc : c.IgnoresOrder) :
    (required name c).codec.IgnoresOrder := hc

@[simp] theorem ignoresOrder_withDefault {a : α} (hc : c.IgnoresOrder) :
    (withDefault name c a).codec.IgnoresOrder := hc

/-- A column that may be null or missing. -/
@[simp] theorem ignoresOrder_optional (hc : c.IgnoresOrder) :
    (withDefault name (nullable c) none).codec.IgnoresOrder := ignoresOrder_nullable hc

end Columns

end Codec

end IdentityApi
