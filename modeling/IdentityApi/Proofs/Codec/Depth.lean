import IdentityApi.Proofs.Codec.Filling
import IdentityApi.Proofs.Json.Parts

/-! # Decoding does not ask for spare depth

How deep arrays and objects may nest matters only for trees that nest deeper. So an item of a list
is decoded as it would be alone, as long as the list does not nest too deep (`IgnoresDepth`).
-/
namespace IdentityApi

open Json (Tree)

/-! ## Nesting -/

namespace Json.Tree

mutual

/-- How deep arrays and objects nest. -/
def nesting : Tree → Nat
  | array items _ => nestingOfItems items + 1
  | object members _ => nestingOfMembers members + 1
  | null | bool _ | number _ | string _ | absent _ | brokenString _ _ | broken _ => 0
termination_by structural t => t

def nestingOfItems : List Tree → Nat
  | [] => 0
  | t :: rest => max t.nesting (nestingOfItems rest)
termination_by structural l => l

def nestingOfMembers : List (Except Fault String × Tree) → Nat
  | [] => 0
  | (_, t) :: rest => max t.nesting (nestingOfMembers rest)
termination_by structural l => l

end

variable {d d' : Nat}

theorem nestingOfItems_le_iff {items : List Tree} :
    nestingOfItems items ≤ d ↔ ∀ t ∈ items, t.nesting ≤ d := by
  induction items with
  | nil => simp [nestingOfItems]
  | cons t items ih => rw [nestingOfItems, max_le_iff, ih, List.forall_mem_cons]

theorem nestingOfMembers_le_iff {members : List (Except Fault String × Tree)} :
    nestingOfMembers members ≤ d ↔ ∀ m ∈ members, m.2.nesting ≤ d := by
  induction members with
  | nil => simp [nestingOfMembers]
  | cons m members ih => rw [nestingOfMembers, max_le_iff, ih, List.forall_mem_cons]

theorem nesting_array_le_iff {items : List Tree} {ending : ArrayEnd} :
    (array items ending).nesting ≤ d ↔ ∃ e, d = e + 1 ∧ ∀ t ∈ items, t.nesting ≤ e := by
  simp only [nesting, ← nestingOfItems_le_iff]
  constructor
  · intro h
    exact ⟨d - 1, by omega, by omega⟩
  · rintro ⟨e, rfl, h⟩
    omega

theorem nesting_object_le_iff {members : List (Except Fault String × Tree)}
    {ending : ObjectEnd Tree} :
    (object members ending).nesting ≤ d ↔ ∃ e, d = e + 1 ∧ ∀ m ∈ members, m.2.nesting ≤ e := by
  simp only [nesting, ← nestingOfMembers_le_iff]
  constructor
  · intro h
    exact ⟨d - 1, by omega, by omega⟩
  · rintro ⟨e, rfl, h⟩
    omega

theorem values_congr {items : List Tree} (h : ∀ t ∈ items, t.value d = t.value d') :
    values d items = values d' items := by
  induction items with
  | nil => rfl
  | cons t items ih =>
    obtain ⟨ht, hitems⟩ := List.forall_mem_cons.mp h
    rw [values, values, ht, ih hitems]

theorem memberValues_congr {members : List (Except Fault String × Tree)}
    (h : ∀ m ∈ members, m.2.value d = m.2.value d') :
    memberValues d members = memberValues d' members := by
  induction members with
  | nil => rfl
  | cons m members ih =>
    obtain ⟨key, t⟩ := m
    obtain ⟨ht, hmembers⟩ := List.forall_mem_cons.mp h
    rw [memberValues, memberValues, ht, ih hmembers]

theorem value_congr {t : Tree} (h : t.nesting ≤ d) (h' : t.nesting ≤ d') :
    t.value d = t.value d' := by
  induction t using byParts generalizing d d' with
  | leaf t ht =>
    cases t with
    | array items ending => exact ht.elim
    | object members ending => exact ht.elim
    | _ => rfl
  | array items ending ih =>
    obtain ⟨e, rfl, hitems⟩ := nesting_array_le_iff.mp h
    obtain ⟨e', rfl, hitems'⟩ := nesting_array_le_iff.mp h'
    rw [value, value, values_congr fun t ht => ih t ht (hitems t ht) (hitems' t ht)]
  | object members ending ih =>
    obtain ⟨e, rfl, hmembers⟩ := nesting_object_le_iff.mp h
    obtain ⟨e', rfl, hmembers'⟩ := nesting_object_le_iff.mp h'
    rw [value, value, memberValues_congr fun m hm => ih m hm (hmembers m hm) (hmembers' m hm)]

end Json.Tree

namespace Codec

open Json.Tree

variable {α β : Type} {c : Codec α} {d d' : Nat}

/-- Two depths that a tree does not exceed make no difference. -/
def IgnoresDepth (c : Codec α) : Prop :=
  ∀ ⦃d d' : Nat⦄ ⦃t : Tree⦄, t.nesting ≤ d → t.nesting ≤ d' → c.decode d t = c.decode d' t

/-! ## Simple codecs -/

@[simp] theorem ignoresDepth_string : string.IgnoresDepth := fun _ _ _ _ _ => rfl

@[simp] theorem ignoresDepth_bool : bool.IgnoresDepth := fun _ _ _ _ _ => rfl

@[simp] theorem ignoresDepth_int64 : int64.IgnoresDepth := fun _ _ _ _ _ => rfl

@[simp] theorem ignoresDepth_uint64 : uint64.IgnoresDepth := fun _ _ _ _ _ => rfl

@[simp] theorem ignoresDepth_uuid : uuid.IgnoresDepth := fun _ _ _ _ _ => rfl

@[simp] theorem ignoresDepth_timestamp : timestamp.IgnoresDepth := fun _ _ _ _ _ => rfl

@[simp] theorem ignoresDepth_value : value.IgnoresDepth :=
  fun _ _ _ h h' => congrArg liftJson (value_congr h h')

@[simp] theorem ignoresDepth_choice [Choice α] : (choice α).IgnoresDepth := by
  intro d d' t h h'
  cases t with
  | object members ending =>
    obtain ⟨e, rfl, -⟩ := nesting_object_le_iff.mp h
    obtain ⟨e', rfl, -⟩ := nesting_object_le_iff.mp h'
    rfl
  | string s => cases s <;> rfl
  | _ => rfl

/-! ## Codecs of other codecs -/

@[simp] theorem ignoresDepth_nullable (hc : c.IgnoresDepth) : (nullable c).IgnoresDepth := by
  intro d d' t h h'
  cases t with
  | null => rfl
  | _ => exact congrArg (Except.map some) (hc h h')

theorem ignoresDepth_map {f : α → β} {g : β → α} (hc : c.IgnoresDepth) :
    (c.map f g).IgnoresDepth := fun _ _ _ h h' => congrArg (Except.map f) (hc h h')

theorem decodeItems_congr (hc : c.IgnoresDepth) {items : List Tree}
    (h : ∀ t ∈ items, t.nesting ≤ d) (h' : ∀ t ∈ items, t.nesting ≤ d') :
    decodeItems c d items = decodeItems c d' items := by
  induction items with
  | nil => rfl
  | cons t items ih =>
    obtain ⟨ht, hitems⟩ := List.forall_mem_cons.mp h
    obtain ⟨ht', hitems'⟩ := List.forall_mem_cons.mp h'
    rw [decodeItems, decodeItems, hc ht ht', ih hitems hitems']

@[simp] theorem ignoresDepth_list (hc : c.IgnoresDepth) : (list c).IgnoresDepth := by
  intro d d' t h h'
  cases t with
  | array items ending =>
    obtain ⟨e, rfl, hitems⟩ := nesting_array_le_iff.mp h
    obtain ⟨e', rfl, hitems'⟩ := nesting_array_le_iff.mp h'
    change (decodeItems c e items >>= _) = (decodeItems c e' items >>= _)
    rw [decodeItems_congr hc hitems hitems']
  | _ => rfl

theorem decodeMembers_congr (hc : c.IgnoresDepth)
    {members : List (Except Json.Fault String × Tree)} (h : ∀ m ∈ members, m.2.nesting ≤ d)
    (h' : ∀ m ∈ members, m.2.nesting ≤ d') :
    decodeMembers c d members = decodeMembers c d' members := by
  induction members with
  | nil => rfl
  | cons m members ih =>
    obtain ⟨key, t⟩ := m
    obtain ⟨ht, hmembers⟩ := List.forall_mem_cons.mp h
    obtain ⟨ht', hmembers'⟩ := List.forall_mem_cons.mp h'
    rw [decodeMembers, decodeMembers, hc ht ht', ih hmembers hmembers']

@[simp] theorem ignoresDepth_keyed (hc : c.IgnoresDepth) : (keyed c).IgnoresDepth := by
  intro d d' t h h'
  cases t with
  | object members ending =>
    obtain ⟨e, rfl, hmembers⟩ := nesting_object_le_iff.mp h
    obtain ⟨e', rfl, hmembers'⟩ := nesting_object_le_iff.mp h'
    change (decodeMembers c e members >>= _) = (decodeMembers c e' members >>= _)
    rw [decodeMembers_congr hc hmembers hmembers']
  | _ => rfl

/-! ## Records -/

variable {cs : List Column}

theorem Slots.accept_congr (hcs : ∀ c ∈ cs, c.codec.IgnoresDepth) {name : String} {t : Tree}
    (h : t.nesting ≤ d) (h' : t.nesting ≤ d') (slots : Slots cs) :
    slots.accept d name t cs = slots.accept d' name t cs := by
  induction cs with
  | nil => rfl
  | cons c cs ih =>
    obtain ⟨slot, rest⟩ := slots
    obtain ⟨hc, hcs⟩ := List.forall_mem_cons.mp hcs
    rw [accept_cons, accept_cons, hc h h', ih hcs]

theorem Slots.acceptAll_congr (hcs : ∀ c ∈ cs, c.codec.IgnoresDepth)
    {members : List (Except Json.Fault String × Tree)} (h : ∀ m ∈ members, m.2.nesting ≤ d)
    (h' : ∀ m ∈ members, m.2.nesting ≤ d') (slots : Slots cs) :
    acceptAll d cs members slots = acceptAll d' cs members slots := by
  induction members generalizing slots with
  | nil => rfl
  | cons m members ih =>
    obtain ⟨key, t⟩ := m
    obtain ⟨ht, hmembers⟩ := List.forall_mem_cons.mp h
    obtain ⟨ht', hmembers'⟩ := List.forall_mem_cons.mp h'
    simp only [acceptAll, Slots.accept_congr hcs ht ht', ih hmembers hmembers']

theorem Row.ofItems_congr (hcs : ∀ c ∈ cs, c.codec.IgnoresDepth) {record : String}
    {width index : Nat} {items : List Tree} {ending : Json.ArrayEnd}
    (h : ∀ t ∈ items, t.nesting ≤ d) (h' : ∀ t ∈ items, t.nesting ≤ d') :
    ofItems d record width cs index items ending =
      ofItems d' record width cs index items ending := by
  induction cs generalizing index items with
  | nil => cases items <;> rfl
  | cons c cs ih =>
    obtain ⟨hc, hcs⟩ := List.forall_mem_cons.mp hcs
    cases items with
    | nil => simp only [ofItems, ih hcs h h']
    | cons t items =>
      obtain ⟨ht, hitems⟩ := List.forall_mem_cons.mp h
      obtain ⟨ht', hitems'⟩ := List.forall_mem_cons.mp h'
      rw [ofItems, ofItems, hc ht ht', ih hcs hitems hitems']

theorem ignoresDepth_row {record : String} (hcs : ∀ c ∈ cs, c.codec.IgnoresDepth) :
    (row record cs).IgnoresDepth := by
  intro d d' t h h'
  cases t with
  | object members ending =>
    obtain ⟨e, rfl, hmembers⟩ := nesting_object_le_iff.mp h
    obtain ⟨e', rfl, hmembers'⟩ := nesting_object_le_iff.mp h'
    change (Slots.acceptAll e cs members _ >>= _) = (Slots.acceptAll e' cs members _ >>= _)
    rw [Slots.acceptAll_congr hcs hmembers hmembers']
  | array items ending =>
    obtain ⟨e, rfl, hitems⟩ := nesting_array_le_iff.mp h
    obtain ⟨e', rfl, hitems'⟩ := nesting_array_le_iff.mp h'
    exact Row.ofItems_congr hcs hitems hitems'
  | _ => rfl

theorem collect_congr (hcs : ∀ c ∈ cs, c.codec.IgnoresDepth)
    {members : List (Except Json.Fault String × Tree)} (h : ∀ m ∈ members, m.2.nesting ≤ d)
    (h' : ∀ m ∈ members, m.2.nesting ≤ d') (slots : Slots cs) :
    collect d cs members slots = collect d' cs members slots := by
  induction members generalizing slots with
  | nil => rfl
  | cons m members ih =>
    obtain ⟨key, t⟩ := m
    obtain ⟨ht, hmembers⟩ := List.forall_mem_cons.mp h
    obtain ⟨ht', hmembers'⟩ := List.forall_mem_cons.mp h'
    simp only [collect, Slots.accept_congr hcs ht ht', value_congr ht ht', ih hmembers hmembers']

theorem ignoresDepth_openRow {record : String} (hcs : ∀ c ∈ cs, c.codec.IgnoresDepth) :
    (openRow record cs).IgnoresDepth := by
  intro d d' t h h'
  cases t with
  | object members ending =>
    obtain ⟨e, rfl, hmembers⟩ := nesting_object_le_iff.mp h
    obtain ⟨e', rfl, hmembers'⟩ := nesting_object_le_iff.mp h'
    change (collect e cs members _ >>= _) = (collect e' cs members _ >>= _)
    rw [collect_congr hcs hmembers hmembers']
  | _ => rfl

@[simp] theorem ignoresDepth_record {record : String} {f : Row cs → β} {g : β → Row cs}
    (hcs : ∀ c ∈ cs, c.codec.IgnoresDepth) : ((row record cs).map f g).IgnoresDepth :=
  ignoresDepth_map (ignoresDepth_row hcs)

section Columns

variable {name : String}

@[simp] theorem ignoresDepth_required (hc : c.IgnoresDepth) :
    (required name c).codec.IgnoresDepth := hc

@[simp] theorem ignoresDepth_withDefault {a : α} (hc : c.IgnoresDepth) :
    (withDefault name c a).codec.IgnoresDepth := hc

/-- A column that may be null or missing. -/
@[simp] theorem ignoresDepth_optional (hc : c.IgnoresDepth) :
    (withDefault name (nullable c) none).codec.IgnoresDepth := ignoresDepth_nullable hc

end Columns

end Codec

end IdentityApi
