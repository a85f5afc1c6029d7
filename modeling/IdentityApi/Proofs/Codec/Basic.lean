import IdentityApi.Codec.Basic
import IdentityApi.Proofs.Json.Tree
import IdentityApi.Proofs.Timestamp
import IdentityApi.Proofs.Uuid

/-! # Decoded values are stable

A codec is stable when every value that it decodes from whole numbers is written as JSON that it
decodes as the same value again. The simple codecs are stable, and so are options, lists, maps and
choices of stable ones.
-/
namespace IdentityApi

/-- Every choice is found under its name. -/
class Choice.Lawful (α : Type) [Choice α] : Prop where
  ofName?_name : ∀ a : α, Choice.ofName? (Choice.name a) = some a

namespace Codec

open Json (Tree Value Number Fits ok_of_bind ok_of_map)

variable {α β : Type} {c : Codec α} {depth : Nat}

/-- The value is written with whole numbers, and decoded from that as itself. -/
structure IsSettled (c : Codec α) (depth : Nat) (a : α) : Prop where
  decode_encode : c.decode depth (.ofValue (c.encode a)) = .ok a
  isWhole : (c.encode a).IsWhole

/-- With at least this depth, values that are decoded from whole numbers are settled. -/
def IsStable (c : Codec α) (depth : Nat) : Prop :=
  ∀ {d : Nat} {t : Tree} {a : α}, depth ≤ d → t.IsWhole → c.decode d t = .ok a → c.IsSettled d a

theorem isStable_of_isSettled (h : ∀ d a, c.IsSettled d a) : c.IsStable depth :=
  fun _ _ _ => h _ _

theorem ok_of_liftJson {r : Except Json.Fault α} {a : α} (h : liftJson r = .ok a) : r = .ok a := by
  cases r with
  | error fault => cases h
  | ok b =>
    cases h
    rfl

/-! ## Texts, numbers and truth values -/

@[simp] theorem isSettled_string (d : Nat) (s : String) : string.IsSettled d s := ⟨rfl, trivial⟩

@[simp] theorem isSettled_bool (d : Nat) (b : Bool) : bool.IsSettled d b := ⟨rfl, trivial⟩

@[simp] theorem isSettled_int64 (d : Nat) (n : Int64) : int64.IsSettled d n := by
  have hlow := n.le_toInt
  have hhigh := n.toInt_lt
  refine ⟨?_, by omega, by omega⟩
  change ofInteger _ _ _ _ (.number (.ok (.integer n.toInt))) = _
  rw [ofInteger, if_pos ⟨by omega, by omega⟩, Int64.ofInt_toInt]

@[simp] theorem isSettled_uint64 (d : Nat) (n : UInt64) : uint64.IsSettled d n := by
  have hhigh := n.toNat_lt
  refine ⟨?_, by omega, by omega⟩
  change ofInteger "u64" 0 0xFFFFFFFFFFFFFFFF (fun n => UInt64.ofNat n.toNat)
    (.number (.ok (.integer n.toNat))) = _
  rw [ofInteger, if_pos ⟨by omega, by omega⟩, Int.toNat_natCast, UInt64.ofNat_toNat]

@[simp] theorem isSettled_uuid (d : Nat) (u : Uuid) : uuid.IsSettled d u := by
  refine ⟨?_, trivial⟩
  simp only [uuid, Tree.ofValue, ofText, Uuid.ofText?_text]

@[simp] theorem isSettled_choice [Choice α] [Choice.Lawful α] (d : Nat) (a : α) :
    (choice α).IsSettled d a := by
  refine ⟨?_, trivial⟩
  change decodeName α (Choice.name a) = _
  rw [decodeName, Choice.Lawful.ofName?_name]

@[simp] theorem isStable_string : string.IsStable depth := isStable_of_isSettled isSettled_string

@[simp] theorem isStable_bool : bool.IsStable depth := isStable_of_isSettled isSettled_bool

@[simp] theorem isStable_int64 : int64.IsStable depth := isStable_of_isSettled isSettled_int64

@[simp] theorem isStable_uint64 : uint64.IsStable depth := isStable_of_isSettled isSettled_uint64

@[simp] theorem isStable_uuid : uuid.IsStable depth := isStable_of_isSettled isSettled_uuid

@[simp] theorem isStable_choice [Choice α] [Choice.Lawful α] : (choice α).IsStable depth :=
  isStable_of_isSettled isSettled_choice

theorem decode_int64_iff {n : Int64} :
    int64.decode d t = .ok n ↔ t = .number (.ok (.integer n.toInt)) := by
  constructor
  · intro h
    change ofInteger _ _ _ _ t = _ at h
    unfold ofInteger at h
    split at h
    next m =>
      split_ifs at h with hbounds
      cases h
      rw [Int64.toInt_ofInt_of_le (by omega) (by omega)]
    next => cases h
  · rintro rfl
    exact (isSettled_int64 d n).1

theorem decode_string_iff {s : String} : string.decode d t = .ok s ↔ t = .string (.ok s) := by
  constructor
  · intro h
    change ofText _ _ t = _ at h
    unfold ofText at h
    split at h
    next => cases h; rfl
    next => cases h
  · rintro rfl
    rfl

theorem decode_timestamp (d : Nat) (s : String) :
    timestamp.decode d (.string (.ok s)) = (Timestamp.ofText s).mapError .badTimestamp := rfl

theorem encode_timestamp (t : Timestamp) : timestamp.encode t = .string t.text := rfl

@[simp] theorem isStable_timestamp : timestamp.IsStable depth := by
  have hread : ∀ {d : Nat} {s : String} {t : Timestamp}, Timestamp.ofText s = .ok t →
      timestamp.IsSettled d t := by
    intro d s t h
    refine ⟨?_, trivial⟩
    rw [encode_timestamp, Tree.ofValue, decode_timestamp, Timestamp.ofText_text h]
    rfl
  intro d t moment _ _ h
  cases t with
  | string s =>
    cases s with
    | ok s =>
      rw [decode_timestamp] at h
      cases hs : Timestamp.ofText s with
      | error fault =>
        rw [hs] at h
        cases h
      | ok found =>
        rw [hs] at h
        obtain rfl : found = moment := Except.ok.inj h
        exact hread hs
    | error fault => cases h
  | _ => cases h

@[simp] theorem isStable_value : value.IsStable depth := by
  intro d t v _ ht h
  obtain ⟨hread, hwhole⟩ := Value.isSettled_of_value t ht (ok_of_liftJson h)
  refine ⟨?_, hwhole⟩
  change liftJson (Tree.value d (.ofValue v)) = _
  rw [hread]
  rfl

@[simp] theorem isSettled_null (d : Nat) : value.IsSettled d .null := ⟨rfl, trivial⟩

/-! ## Options -/

/-- No value is written as null. -/
def NeverNull (c : Codec α) : Prop := ∀ a, c.encode a ≠ .null

@[simp] theorem neverNull_string : NeverNull string := nofun

@[simp] theorem neverNull_bool : NeverNull bool := nofun

@[simp] theorem neverNull_int64 : NeverNull int64 := nofun

@[simp] theorem neverNull_uuid : NeverNull uuid := nofun

@[simp] theorem neverNull_timestamp : NeverNull timestamp := nofun

@[simp] theorem neverNull_list : NeverNull (list c) := nofun

@[simp] theorem isSettled_none (d : Nat) : (nullable c).IsSettled d none := ⟨rfl, trivial⟩

theorem ofValue_ne_null {v : Value} (h : v ≠ .null) : Tree.ofValue v ≠ .null := by
  cases v with
  | null => exact absurd rfl h
  | _ => simp [Tree.ofValue]

theorem encode_some (a : α) : (nullable c).encode (some a) = c.encode a := rfl

theorem decode_nullable {d : Nat} {t : Tree} (h : t ≠ .null) :
    (nullable c).decode d t = (c.decode d t).map some := by
  cases t with
  | null => exact absurd rfl h
  | _ => rfl

theorem isStable_nullable (hc : c.IsStable depth) (hnull : NeverNull c) :
    (nullable c).IsStable depth := by
  have hsome : ∀ {d : Nat} {a : α}, c.IsSettled d a → (nullable c).IsSettled d (some a) := by
    intro d a ha
    refine ⟨?_, ha.isWhole⟩
    rw [encode_some, decode_nullable (ofValue_ne_null (hnull a)), ha.decode_encode]
    rfl
  intro d t o hd ht h
  cases t with
  | null =>
    cases h
    exact isSettled_none d
  | _ =>
    obtain ⟨a, ha, rfl⟩ := ok_of_map h
    exact hsome (hc hd ht ha)

/-! ## Lists -/

theorem isSettled_of_decodeItems (hc : c.IsStable depth) {d : Nat} (hd : depth ≤ d)
    {items : List Tree} {as : List α} (ht : Tree.AreWhole items)
    (h : decodeItems c d items = .ok as) : ∀ a ∈ as, c.IsSettled d a := by
  induction items generalizing as with
  | nil =>
    cases h
    simp
  | cons t items ih =>
    obtain ⟨a, ha, h⟩ := ok_of_bind h
    obtain ⟨bs, hbs, h⟩ := ok_of_bind h
    cases h
    exact List.forall_mem_cons.mpr ⟨hc hd ht.1 ha, ih ht.2 hbs⟩

theorem decodeItems_encode {d : Nat} {as : List α} (h : ∀ a ∈ as, c.IsSettled d a) :
    decodeItems c d (Tree.ofItems (as.map c.encode)) = .ok as ∧
      Value.AreWhole (as.map c.encode) := by
  induction as with
  | nil => exact ⟨rfl, trivial⟩
  | cons a as ih =>
    obtain ⟨ha, has⟩ := List.forall_mem_cons.mp h
    obtain ⟨hreads, hwholes⟩ := ih has
    refine ⟨?_, ha.isWhole, hwholes⟩
    rw [List.map_cons, Tree.ofItems, decodeItems, ha.decode_encode, hreads]
    rfl

theorem isSettled_list {d : Nat} {as : List α} (h : ∀ a ∈ as, c.IsSettled d a) :
    (list c).IsSettled (d + 1) as := by
  obtain ⟨hreads, hwholes⟩ := decodeItems_encode h
  refine ⟨?_, hwholes⟩
  change (decodeItems c d (Tree.ofItems (as.map c.encode)) >>= fun as => _) = _
  rw [hreads]
  rfl

theorem isSettled_nil {d : Nat} (hd : 0 < d) : (list c).IsSettled d [] := by
  obtain ⟨d, rfl⟩ := Nat.exists_eq_succ_of_ne_zero (Nat.pos_iff_ne_zero.mp hd)
  exact isSettled_list (by simp)

@[simp] theorem isStable_list (hc : c.IsStable depth) : (list c).IsStable (depth + 1) := by
  intro d t as hd ht h
  cases t with
  | array items ending =>
    cases d with
    | zero => cases h
    | succ d =>
      obtain ⟨bs, hbs, h⟩ := ok_of_bind h
      obtain ⟨⟨⟩, -, h⟩ := ok_of_bind h
      cases h
      exact isSettled_list (isSettled_of_decodeItems hc (Nat.le_of_succ_le_succ hd) ht hbs)
  | _ => cases h

/-! ## Maps with any keys -/

theorem isSettled_of_decodeMembers (hc : c.IsStable depth) {d : Nat} (hd : depth ≤ d)
    {members : List (Except Json.Fault String × Tree)} {ms : List (String × α)}
    (ht : Tree.HoldWhole members) (h : decodeMembers c d members = .ok ms) :
    ∀ m ∈ ms, c.IsSettled d m.2 := by
  induction members generalizing ms with
  | nil =>
    cases h
    simp
  | cons p members ih =>
    obtain ⟨k, -, h⟩ := ok_of_bind h
    obtain ⟨a, ha, h⟩ := ok_of_bind h
    obtain ⟨ns, hns, h⟩ := ok_of_bind h
    cases h
    exact List.forall_mem_cons.mpr ⟨hc hd ht.1 ha, ih ht.2 hns⟩

theorem decodeMembers_encode {d : Nat} {ms : List (String × α)}
    (h : ∀ m ∈ ms, c.IsSettled d m.2) :
    decodeMembers c d (Tree.ofMembers (ms.map fun (k, a) => (k, c.encode a))) = .ok ms ∧
      Value.HoldWhole (ms.map fun (k, a) => (k, c.encode a)) := by
  induction ms with
  | nil => exact ⟨rfl, trivial⟩
  | cons m ms ih =>
    obtain ⟨hm, hms⟩ := List.forall_mem_cons.mp h
    obtain ⟨hreads, hwholes⟩ := ih hms
    refine ⟨?_, hm.isWhole, hwholes⟩
    rw [List.map_cons, Tree.ofMembers, decodeMembers, hm.decode_encode, hreads]
    rfl

theorem isSettled_keyed {d : Nat} {m : KeyMap α} (h : ∀ p ∈ m.pairs, c.IsSettled d p.2) :
    (keyed c).IsSettled (d + 1) m := by
  obtain ⟨hreads, hwholes⟩ := decodeMembers_encode h
  refine ⟨?_, hwholes⟩
  change (decodeMembers c d (Tree.ofMembers (m.pairs.map fun (k, a) => (k, c.encode a))) >>=
    fun ms => _) = _
  rw [hreads]
  exact congrArg Except.ok m.ofPairs_pairs

theorem isSettled_noKeys {d : Nat} (hd : 0 < d) : (keyed c).IsSettled d ∅ := by
  obtain ⟨d, rfl⟩ := Nat.exists_eq_succ_of_ne_zero (Nat.pos_iff_ne_zero.mp hd)
  exact isSettled_keyed fun p hp => (List.not_mem_nil hp).elim

@[simp] theorem isStable_keyed (hc : c.IsStable depth) : (keyed c).IsStable (depth + 1) := by
  intro d t m hd ht h
  cases t with
  | object members ending =>
    cases d with
    | zero => cases h
    | succ d =>
      obtain ⟨ms, hms, h⟩ := ok_of_bind h
      obtain ⟨⟨⟩, -, h⟩ := ok_of_bind h
      cases h
      refine isSettled_keyed fun p hp => ?_
      exact isSettled_of_decodeMembers hc (Nat.le_of_succ_le_succ hd) ht hms p
        (KeyMap.mem_of_mem_ofPairs hp)
  | _ => cases h

/-! ## The same JSON for another type -/

theorem isSettled_map {f : α → β} {g : β → α} {d : Nat} {b : β} (h : c.IsSettled d (g b))
    (hfg : f (g b) = b) : (c.map f g).IsSettled d b := by
  refine ⟨?_, h.isWhole⟩
  change (c.decode d (.ofValue (c.encode (g b)))).map f = _
  rw [h.decode_encode]
  exact congrArg Except.ok hfg

theorem isStable_map {f : α → β} {g : β → α} (hc : c.IsStable depth) (hgf : ∀ a, g (f a) = a) :
    (c.map f g).IsStable depth := by
  intro d t b hd ht h
  obtain ⟨a, ha, rfl⟩ := ok_of_map h
  refine isSettled_map ?_ (congrArg f (hgf a))
  rw [hgf]
  exact hc hd ht ha

end Codec

end IdentityApi
