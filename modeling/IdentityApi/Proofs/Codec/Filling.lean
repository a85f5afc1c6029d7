import IdentityApi.Proofs.Codec.Strict
import IdentityApi.Proofs.Json.Parts

/-! # What the columns of a row are read from

In an object a column is read from the one member of its name, in an array from the item in its
place. A column that has neither takes its default. That is all there is to reading: an object is
decoded exactly if its columns are filled so (`decode_row_object_iff`), and a closed array too
(`decode_row_array_iff`).
-/
namespace IdentityApi

open Json (Tree ok_of_bind ok_of_map)

/-- The values of the members of a name, from the left. -/
def Json.Tree.named (name : String) : List (Except Json.Fault String × Tree) → List Tree
  | [] => []
  | (.error _, _) :: members => named name members
  | (.ok k, t) :: members => if k = name then t :: named name members else named name members

/-- The value of a member of the name. -/
def Json.Tree.valueOf? (name : String) : Except Json.Fault String × Tree → Option Tree
  | (.error _, _) => none
  | (.ok k, t) => if k = name then some t else none

theorem Json.Tree.named_eq_filterMap (name : String)
    (members : List (Except Json.Fault String × Tree)) :
    named name members = members.filterMap (valueOf? name) := by
  induction members with
  | nil => rfl
  | cons m members ih =>
    obtain ⟨key, t⟩ := m
    cases key with
    | error fault => exact ih
    | ok k =>
      rw [named, ih, List.filterMap_cons, valueOf?]
      split_ifs <;> rfl

theorem Json.Tree.mem_named_iff {name : String} {t : Tree}
    {members : List (Except Json.Fault String × Tree)} :
    t ∈ named name members ↔ (.ok name, t) ∈ members := by
  rw [named_eq_filterMap, List.mem_filterMap]
  constructor
  · rintro ⟨⟨key, u⟩, hm, hu⟩
    cases key with
    | error fault => cases hu
    | ok k =>
      rw [valueOf?] at hu
      split_ifs at hu with hk
      cases hu
      exact hk ▸ hm
  · exact fun h => ⟨_, h, if_pos rfl⟩

theorem Json.Tree.mem_of_mem_named {name : String} {t : Tree}
    {members : List (Except Json.Fault String × Tree)} (h : t ∈ named name members) :
    ∃ m ∈ members, m.2 = t :=
  ⟨_, mem_named_iff.mp h, rfl⟩

/-- The names of the members, as far as their keys say any. -/
def Json.Tree.names (members : List (Except Json.Fault String × Tree)) : List String :=
  members.filterMap fun m => m.1.toOption

namespace Json.Tree

variable {name : String} {key : Except Json.Fault String} {t : Tree}
  {members : List (Except Json.Fault String × Tree)}

theorem names_cons_ok :
    names ((.ok name, t) :: members) = name :: names members := rfl

theorem names_eq_map_fst {α : Type} {R : Tree → α → Prop} {ps : List (String × α)}
    (h : List.Forall₂ (Says R) members ps) : names members = ps.map Prod.fst := by
  induction h with
  | nil => rfl
  | @cons m p _ _ hm _ ih =>
    obtain ⟨key, t⟩ := m
    obtain rfl : key = .ok p.1 := hm.1
    exact congrArg (p.1 :: ·) ih

theorem mem_names_of_mem (h : (.ok name, t) ∈ members) : name ∈ names members :=
  List.mem_filterMap.mpr ⟨_, h, rfl⟩

theorem named_eq_nil (h : name ∉ names members) : named name members = [] := by
  induction members with
  | nil => rfl
  | cons m members ih =>
    obtain ⟨key, t⟩ := m
    cases key with
    | error fault => exact ih h
    | ok k =>
      rw [names_cons_ok, List.mem_cons, not_or] at h
      rw [named, if_neg (Ne.symm h.1), ih h.2]

/-- Of distinct names each has one value. -/
theorem named_eq_singleton (hnodup : (names members).Nodup) (h : (.ok name, t) ∈ members) :
    named name members = [t] := by
  induction members with
  | nil => cases h
  | cons m members ih =>
    rcases List.mem_cons.mp h with rfl | hrest
    · rw [named, if_pos rfl, named_eq_nil (List.nodup_cons.mp hnodup).1]
    · obtain ⟨key, u⟩ := m
      cases key with
      | error fault => exact ih hnodup hrest
      | ok k =>
        obtain ⟨hk, hnodup⟩ := List.nodup_cons.mp hnodup
        have hne : k ≠ name := by
          rintro rfl
          exact hk (mem_names_of_mem hrest)
        rw [named, if_neg hne, ih hnodup hrest]

end Json.Tree

namespace Codec

open Json.Tree

variable {cs : List Column} {d : Nat} {k : String} {t : Tree}
  {members : List (Except Json.Fault String × Tree)}

/-- The trees that are meant for a column say this value: there is one tree, or none and a
default. -/
inductive Column.IsFilled (c : Column) (d : Nat) : List Tree → c.Carrier → Prop
  | missing {a : c.Carrier} : c.default = some a → IsFilled c d [] a
  | read {t : Tree} {a : c.Carrier} : c.codec.decode d t = .ok a → IsFilled c d [t] a

namespace Column

variable {c : Column} {a : c.Carrier}

theorem isFilled_nil_iff : c.IsFilled d [] a ↔ c.default = some a := by
  constructor
  · rintro ⟨h⟩
    exact h
  · exact .missing

theorem isFilled_cons_iff {ts : List Tree} :
    c.IsFilled d (t :: ts) a ↔ c.codec.decode d t = .ok a ∧ ts = [] := by
  constructor
  · intro h
    cases h with
    | read h => exact ⟨h, rfl⟩
  · rintro ⟨h, rfl⟩
    exact .read h

end Column

theorem isFilled_required_iff {α : Type} {c : Codec α} {name : String} {ts : List Tree} {a : α} :
    (required name c).IsFilled d ts a ↔ ∃ t, ts = [t] ∧ c.decode d t = .ok a := by
  constructor
  · rintro (h | ⟨h⟩)
    · cases h
    · exact ⟨_, rfl, h⟩
  · rintro ⟨t, rfl, h⟩
    exact .read h

/-! ## Rows of arrays -/

/-- Every column is filled from the item in its place, and no item is left. -/
def Row.IsInOrder (d : Nat) : (cs : List Column) → List Tree → Row cs → Prop
  | [], items, _ => items = []
  | c :: cs, items, (a, row) =>
    c.IsFilled d (items.take 1) a ∧ Row.IsInOrder d cs (items.drop 1) row

theorem Row.ofItems_nil_iff {record : String} {width index : Nat} {c : Column} {a : c.Carrier}
    {row : Row cs} :
    ofItems d record width (c :: cs) index [] .closed = .ok (a, row) ↔
      c.default = some a ∧ ofItems d record width cs (index + 1) [] .closed = .ok row := by
  constructor
  · intro h
    unfold ofItems at h
    obtain ⟨⟨⟩, -, h⟩ := ok_of_bind h
    split at h
    · cases h
    · next b hb =>
      obtain ⟨row', hrow, h⟩ := ok_of_bind h
      cases h
      exact ⟨hb, hrow⟩
  · rintro ⟨hdefault, hrow⟩
    unfold ofItems
    rw [hdefault]
    exact Json.bind_eq_ok_iff.mpr ⟨(), rfl, Json.bind_eq_ok_iff.mpr ⟨row, hrow, rfl⟩⟩

theorem Row.ofItems_cons_iff {record : String} {width index : Nat} {c : Column} {a : c.Carrier}
    {items : List Tree} {row : Row cs} :
    ofItems d record width (c :: cs) index (t :: items) .closed = .ok (a, row) ↔
      c.codec.decode d t = .ok a ∧
        ofItems d record width cs (index + 1) items .closed = .ok row := by
  rw [ofItems]
  constructor
  · intro h
    obtain ⟨b, hb, h⟩ := ok_of_bind h
    obtain ⟨row', hrow, h⟩ := ok_of_bind h
    cases h
    exact ⟨hb, hrow⟩
  · rintro ⟨ha, hrow⟩
    exact Json.bind_eq_ok_iff.mpr ⟨a, ha, Json.bind_eq_ok_iff.mpr ⟨row, hrow, rfl⟩⟩

theorem Row.ofItems_eq_ok_iff {record : String} {width index : Nat} {items : List Tree}
    {row : Row cs} :
    ofItems d record width cs index items .closed = .ok row ↔ IsInOrder d cs items row := by
  induction cs generalizing index items with
  | nil =>
    cases items with
    | nil => exact ⟨fun _ => rfl, fun _ => rfl⟩
    | cons t items => exact ⟨nofun, nofun⟩
  | cons c cs ih =>
    obtain ⟨a, row⟩ := row
    cases items with
    | nil => rw [ofItems_nil_iff, ih, IsInOrder, List.take_nil, List.drop_nil,
        Column.isFilled_nil_iff]
    | cons t items =>
      rw [ofItems_cons_iff, ih, IsInOrder, List.take_succ_cons, List.drop_succ_cons,
        List.take_zero, List.drop_zero, Column.isFilled_cons_iff, and_iff_left rfl]

theorem decode_row_array_iff {record : String} {items : List Tree} {r : Row cs} :
    (row record cs).decode (d + 1) (.array items .closed) = .ok r ↔ Row.IsInOrder d cs items r :=
  Row.ofItems_eq_ok_iff

/-! ## Rows of objects -/

/-- Every column is filled from the members of its name. -/
def Row.IsNamed (d : Nat) (members : List (Except Json.Fault String × Tree)) :
    (cs : List Column) → Row cs → Prop
  | [], _ => True
  | c :: cs, (a, row) => c.IsFilled d (named c.name members) a ∧ IsNamed d members cs row

/-- The slot of a column gets this value from the trees that are to come: none if it has a value
already. -/
def Column.Awaits (c : Column) (d : Nat) (ts : List Tree) : Option c.Carrier → c.Carrier → Prop
  | none, a => c.IsFilled d ts a
  | some b, a => b = a ∧ ts = []

namespace Slots

/-- With these members to come, the slots grow into the row. -/
def Await (d : Nat) (members : List (Except Json.Fault String × Tree)) :
    (cs : List Column) → Slots cs → Row cs → Prop
  | [], _, _ => True
  | c :: cs, (slot, rest), (a, row) =>
    c.Awaits d (named c.name members) slot a ∧ Await d members cs rest row

theorem await_empty_iff {row : Row cs} :
    Await d members cs (empty cs) row ↔ Row.IsNamed d members cs row := by
  induction cs with
  | nil => exact Iff.rfl
  | cons c cs ih => exact and_congr_right fun _ => ih

theorem toRow_none_iff {c : Column} {rest : Slots cs} {a : c.Carrier} {row : Row cs} :
    toRow (c :: cs) (none, rest) = .ok (a, row) ↔ c.default = some a ∧ rest.toRow = .ok row := by
  rw [toRow_none]
  constructor
  · intro h
    split at h
    · next b hb =>
      obtain ⟨row', hrow, h⟩ := ok_of_map h
      cases h
      exact ⟨hb, hrow⟩
    · cases h
  · rintro ⟨hdefault, hrow⟩
    rw [hdefault, hrow]
    rfl

theorem toRow_some_iff {c : Column} {rest : Slots cs} {a b : c.Carrier} {row : Row cs} :
    toRow (c :: cs) (some b, rest) = .ok (a, row) ↔ b = a ∧ rest.toRow = .ok row := by
  rw [toRow_some]
  constructor
  · intro h
    obtain ⟨row', hrow, h⟩ := ok_of_map h
    cases h
    exact ⟨rfl, hrow⟩
  · rintro ⟨rfl, hrow⟩
    rw [hrow]
    rfl

theorem await_nil_iff {slots : Slots cs} {row : Row cs} :
    Await d [] cs slots row ↔ slots.toRow = .ok row := by
  induction cs with
  | nil => exact ⟨fun _ => rfl, fun _ => trivial⟩
  | cons c cs ih =>
    obtain ⟨slot, rest⟩ := slots
    obtain ⟨a, row⟩ := row
    cases slot with
    | none => rw [toRow_none_iff, Await, ih, named, Column.Awaits, Column.isFilled_nil_iff]
    | some b => rw [toRow_some_iff, Await, ih, named, Column.Awaits, and_iff_left rfl]

/-- A member of another name makes no difference. -/
theorem await_cons_of_ne (hk : ∀ c ∈ cs, c.name ≠ k) {slots : Slots cs} {row : Row cs} :
    Await d ((.ok k, t) :: members) cs slots row ↔ Await d members cs slots row := by
  induction cs with
  | nil => exact Iff.rfl
  | cons c cs ih =>
    obtain ⟨slot, rest⟩ := slots
    obtain ⟨a, row⟩ := row
    obtain ⟨hc, hcs⟩ := List.forall_mem_cons.mp hk
    have hnamed : named c.name ((.ok k, t) :: members) = named c.name members :=
      if_neg (Ne.symm hc)
    rw [Await, Await, hnamed, ih hcs]

/-- Reading a member keeps what the slots await. -/
theorem accept_iff (hnodup : (cs.map Column.name).Nodup) (hcs : ∀ c ∈ cs, c.codec.IsStrict)
    {slots : Slots cs} {row : Row cs} :
    (∃ slots', slots.accept d k t cs = .ok slots' ∧ Await d members cs slots' row) ↔
      t.skip = .ok () ∧ Await d ((.ok k, t) :: members) cs slots row := by
  induction cs with
  | nil =>
    constructor
    · rintro ⟨slots', h, -⟩
      exact ⟨skip_of_accept hcs h, trivial⟩
    · rintro ⟨hskip, -⟩
      rw [accept, hskip]
      exact ⟨(), rfl, trivial⟩
  | cons c cs ih =>
    obtain ⟨slot, rest⟩ := slots
    obtain ⟨a, row⟩ := row
    obtain ⟨hname, hnodup⟩ := List.nodup_cons.mp hnodup
    obtain ⟨hc, hcs⟩ := List.forall_mem_cons.mp hcs
    have ih := @ih hnodup hcs rest row
    rw [accept_cons]
    split_ifs with hk
    · have hrest : ∀ c ∈ cs, c.name ≠ k := fun c' hc' hk' =>
        hname (List.mem_map.mpr ⟨c', hc', hk'.trans hk.symm⟩)
      have hnamed : named c.name ((.ok k, t) :: members) = t :: named c.name members :=
        if_pos hk.symm
      rw [Await, hnamed, await_cons_of_ne hrest]
      cases slot with
      | none =>
        rw [Column.Awaits, Column.isFilled_cons_iff]
        constructor
        · rintro ⟨slots', h, hawait⟩
          obtain ⟨b, hb, rfl⟩ := ok_of_map h
          obtain ⟨⟨rfl, hnil⟩, hawait⟩ := hawait
          exact ⟨hc hb, ⟨hb, hnil⟩, hawait⟩
        · rintro ⟨-, ⟨ha, hnil⟩, hawait⟩
          rw [ha]
          exact ⟨(some a, rest), rfl, ⟨rfl, hnil⟩, hawait⟩
      | some b => exact ⟨nofun, fun h => absurd h.2.1.2 nofun⟩
    · have hnamed : named c.name ((.ok k, t) :: members) = named c.name members :=
        if_neg (Ne.symm hk)
      rw [Await, hnamed, and_left_comm, ← ih]
      constructor
      · rintro ⟨slots', h, hawait⟩
        obtain ⟨rest', hrest, rfl⟩ := ok_of_map h
        exact ⟨hawait.1, rest', hrest, hawait.2⟩
      · rintro ⟨hslot, rest', hrest, hawait⟩
        rw [hrest]
        exact ⟨(slot, rest'), rfl, hslot, hawait⟩

/-- The keys of an object are texts, and everything in it can be passed over. -/
def IsReadable (members : List (Except Json.Fault String × Tree)) : Prop :=
  ∀ m ∈ members, (∃ k, m.1 = .ok k) ∧ m.2.skip = .ok ()

theorem acceptAll_iff (hnodup : (cs.map Column.name).Nodup) (hcs : ∀ c ∈ cs, c.codec.IsStrict)
    {slots : Slots cs} {row : Row cs} :
    (∃ slots', acceptAll d cs members slots = .ok slots' ∧ slots'.toRow = .ok row) ↔
      IsReadable members ∧ Await d members cs slots row := by
  induction members generalizing slots with
  | nil => simp [acceptAll, IsReadable, await_nil_iff]
  | cons m members ih =>
    obtain ⟨key, t⟩ := m
    cases key with
    | error fault =>
      constructor
      · rintro ⟨slots', h, -⟩
        cases h
      · rintro ⟨hread, -⟩
        obtain ⟨⟨k, hk⟩, -⟩ := hread _ List.mem_cons_self
        cases hk
    | ok k =>
      constructor
      · rintro ⟨slots', h, hrow⟩
        change (slots.accept d k t cs >>= acceptAll d cs members) = _ at h
        obtain ⟨slots'', hslots'', h⟩ := ok_of_bind h
        obtain ⟨hread, hawait⟩ := ih.mp ⟨slots', h, hrow⟩
        obtain ⟨hskip, hawait⟩ := (accept_iff hnodup hcs).mp ⟨slots'', hslots'', hawait⟩
        exact ⟨List.forall_mem_cons.mpr ⟨⟨⟨k, rfl⟩, hskip⟩, hread⟩, hawait⟩
      · rintro ⟨hread, hawait⟩
        obtain ⟨⟨-, hskip⟩, hread⟩ := List.forall_mem_cons.mp hread
        obtain ⟨slots'', hslots'', hawait⟩ := (accept_iff hnodup hcs).mpr ⟨hskip, hawait⟩
        obtain ⟨slots', hslots', hrow⟩ := ih.mpr ⟨hread, hawait⟩
        refine ⟨slots', ?_, hrow⟩
        change (slots.accept d k t cs >>= acceptAll d cs members) = _
        exact Json.bind_eq_ok_iff.mpr ⟨slots'', hslots'', hslots'⟩

end Slots

theorem decode_row_object_iff (hnodup : (cs.map Column.name).Nodup)
    (hcs : ∀ c ∈ cs, c.codec.IsStrict) {record : String} {r : Row cs} :
    (row record cs).decode (d + 1) (.object members .closed) = .ok r ↔
      Slots.IsReadable members ∧ Row.IsNamed d members cs r := by
  rw [← Slots.await_empty_iff, ← Slots.acceptAll_iff hnodup hcs]
  constructor
  · intro h
    obtain ⟨slots, hslots, h⟩ := ok_of_bind h
    obtain ⟨⟨⟩, -, h⟩ := ok_of_bind h
    exact ⟨slots, hslots, h⟩
  · rintro ⟨slots, hslots, hrow⟩
    exact Json.bind_eq_ok_iff.mpr ⟨slots, hslots, Json.bind_eq_ok_iff.mpr ⟨(), rfl, hrow⟩⟩

/-! ## Lists -/

variable {α : Type} {c : Codec α}

theorem decodeItems_iff {items : List Tree} {as : List α} :
    decodeItems c d items = .ok as ↔ List.Forall₂ (fun t a => c.decode d t = .ok a) items as := by
  induction items generalizing as with
  | nil => simp [decodeItems, eq_comm]
  | cons t items ih =>
    rw [List.forall₂_cons_left_iff]
    constructor
    · intro h
      obtain ⟨a, ha, h⟩ := ok_of_bind h
      obtain ⟨bs, hbs, h⟩ := ok_of_bind h
      cases h
      exact ⟨a, bs, ha, ih.mp hbs, rfl⟩
    · rintro ⟨a, bs, ha, hbs, rfl⟩
      exact Json.bind_eq_ok_iff.mpr ⟨a, ha, Json.bind_eq_ok_iff.mpr ⟨bs, ih.mpr hbs, rfl⟩⟩

theorem decode_list_iff {items : List Tree} {as : List α} :
    (list c).decode (d + 1) (.array items .closed) = .ok as ↔
      List.Forall₂ (fun t a => c.decode d t = .ok a) items as := by
  rw [← decodeItems_iff]
  constructor
  · intro h
    obtain ⟨bs, hbs, h⟩ := ok_of_bind h
    obtain ⟨⟨⟩, -, h⟩ := ok_of_bind h
    cases h
    exact hbs
  · intro h
    exact Json.bind_eq_ok_iff.mpr ⟨as, h, Json.bind_eq_ok_iff.mpr ⟨(), rfl, rfl⟩⟩

end Codec

end IdentityApi
