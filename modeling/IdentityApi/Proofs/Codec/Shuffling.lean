import IdentityApi.Proofs.Codec.Members
import IdentityApi.Proofs.Json.Shuffling

/-! # Decoding ignores shuffling

A codec ignores shuffling when it reads from a shuffled tree what it read from an unambiguous one.
The simple codecs do, for their trees have no members, and so do options, lists, maps, choices and
records of codecs that ignore shuffling. A record also ignores members with names of no column
(`decode_row_added`).
-/
namespace IdentityApi.Codec

open Json (Tree ok_of_bind ok_of_map bind_eq_ok_iff map_eq_ok_iff)
open Json.Tree

variable {α β : Type} {c : Codec α}

/-- From a shuffled tree the codec reads the same. -/
def IgnoresShuffling (c : Codec α) : Prop :=
  ∀ ⦃d : Nat⦄ ⦃t t' : Tree⦄ ⦃a : α⦄, t.Shuffled t' → t.IsUnambiguous →
    c.decode d t = .ok a → c.decode d t' = .ok a

theorem IgnoresShuffling.decode_iff (hc : c.IgnoresShuffling) {d : Nat} {t t' : Tree}
    (h : t.Shuffled t') (ht : t.IsUnambiguous) {a : α} :
    c.decode d t = .ok a ↔ c.decode d t' = .ok a :=
  ⟨hc h ht, hc h.symm (h.isUnambiguous ht)⟩

/-! ## Simple codecs -/

/-- A codec that reads only trees without parts ignores shuffling. -/
theorem ignoresShuffling_of_isLeaf (hc : ∀ {d t a}, c.decode d t = .ok a → t.IsLeaf) :
    c.IgnoresShuffling := by
  intro d t t' a h _ ha
  rw [h.eq_of_isLeaf (hc ha)]
  exact ha

theorem leaf_of_ofText {expected : String} {parse : String → Except Fault α} {t : Tree} {a : α}
    (h : ofText expected parse t = .ok a) : t.IsLeaf := by
  cases t with
  | string s => trivial
  | _ => cases h

theorem leaf_of_ofInteger {expected : String} {low high : Int} {make : Int → α} {t : Tree} {a : α}
    (h : ofInteger expected low high make t = .ok a) : t.IsLeaf := by
  cases t with
  | number n => trivial
  | _ => cases h

@[simp] theorem ignoresShuffling_string : string.IgnoresShuffling :=
  ignoresShuffling_of_isLeaf leaf_of_ofText

@[simp] theorem ignoresShuffling_uuid : uuid.IgnoresShuffling :=
  ignoresShuffling_of_isLeaf leaf_of_ofText

@[simp] theorem ignoresShuffling_timestamp : timestamp.IgnoresShuffling :=
  ignoresShuffling_of_isLeaf leaf_of_ofText

@[simp] theorem ignoresShuffling_int64 : int64.IgnoresShuffling :=
  ignoresShuffling_of_isLeaf leaf_of_ofInteger

@[simp] theorem ignoresShuffling_uint64 : uint64.IgnoresShuffling :=
  ignoresShuffling_of_isLeaf leaf_of_ofInteger

@[simp] theorem ignoresShuffling_bool : bool.IgnoresShuffling := by
  apply ignoresShuffling_of_isLeaf
  intro d t a h
  cases t with
  | bool b => trivial
  | _ => cases h

@[simp] theorem ignoresShuffling_value : value.IgnoresShuffling := by
  intro d t t' v h ht hv
  exact congrArg liftJson (h.value_eq_ok ht (ok_of_liftJson hv))

/-! ## Codecs of other codecs -/

theorem decode_nullable_of_ne {d : Nat} {t : Tree} (ht : t ≠ .null) :
    (nullable c).decode d t = (c.decode d t).map some := by
  cases t with
  | null => exact absurd rfl ht
  | _ => rfl

@[simp] theorem ignoresShuffling_nullable (hc : c.IgnoresShuffling) :
    (nullable c).IgnoresShuffling := by
  intro d t t' a h ht ha
  by_cases hnull : t = .null
  · rw [h.eq_of_isLeaf (hnull ▸ trivial)]
    exact ha
  · have hnull' : t' ≠ .null := by
      rintro rfl
      exact hnull (h.symm.eq_of_isLeaf trivial)
    rw [decode_nullable_of_ne hnull] at ha
    rw [decode_nullable_of_ne hnull']
    obtain ⟨b, hb, rfl⟩ := ok_of_map ha
    exact map_eq_ok_iff.mpr ⟨b, hc h ht hb, rfl⟩

theorem ignoresShuffling_map {f : α → β} {g : β → α} (hc : c.IgnoresShuffling) :
    (c.map f g).IgnoresShuffling := by
  intro d t t' b h ht hb
  obtain ⟨a, ha, rfl⟩ := ok_of_map hb
  exact map_eq_ok_iff.mpr ⟨a, hc h ht ha, rfl⟩

@[simp] theorem ignoresShuffling_list (hc : c.IgnoresShuffling) : (list c).IgnoresShuffling := by
  intro d t t' as h ht has
  cases t with
  | array items ending =>
    obtain ⟨items', rfl, hitems⟩ := h.of_array
    obtain ⟨rfl, hparts⟩ := isUnambiguous_array_iff.mp ht
    cases d with
    | zero => cases has
    | succ d =>
      refine decode_list_iff.mpr (forall₂_of_shuffled ?_ hitems (decode_list_iff.mp has))
      intro t ht t' a h
      exact hc h (hparts t ht)
  | _ => cases has

@[simp] theorem ignoresShuffling_keyed (hc : c.IgnoresShuffling) : (keyed c).IgnoresShuffling := by
  intro d t t' m h ht hm
  cases t with
  | object members ending =>
    obtain ⟨middle, members', rfl, hmembers, hperm⟩ := h.of_object
    obtain ⟨rfl, hnodup, hparts⟩ := isUnambiguous_object_iff.mp ht
    cases d with
    | zero => cases hm
    | succ d =>
      obtain ⟨ps, hps, rfl⟩ := decode_keyed_iff.mp hm
      have hsays : ∀ m ∈ members, ∀ {t' a}, m.2.Shuffled t' → c.decode d m.2 = .ok a →
          c.decode d t' = .ok a := fun m hm _ _ h => hc h (hparts m hm)
      obtain ⟨ps', hps', hsame⟩ := exists_says_ofPairs_eq hsays hnodup hmembers hperm hps
      exact decode_keyed_iff.mpr ⟨ps', hps', hsame.symm⟩
  | _ => cases hm

/-- A choice in the form of an object is a name and null. -/
theorem exists_of_decodeNamed [Choice α] {members : List (Except Json.Fault String × Tree)}
    {ending : Json.ObjectEnd Tree} {a : α} (h : decodeNamed α members ending = .ok a) :
    ∃ key, members = [(key, .null)] := by
  cases members with
  | nil => cases ending <;> cases h
  | cons p rest =>
    obtain ⟨key, t⟩ := p
    obtain ⟨k, -, h⟩ := ok_of_bind h
    obtain ⟨b, -, h⟩ := ok_of_bind h
    obtain ⟨⟨⟩, ht, h⟩ := ok_of_bind h
    cases t with
    | null =>
      cases rest with
      | nil => exact ⟨key, rfl⟩
      | cons m rest => cases h
    | _ => cases ht

@[simp] theorem ignoresShuffling_choice [Choice α] : (choice α).IgnoresShuffling := by
  intro d t t' a h ht ha
  cases t with
  | string s =>
    rw [h.eq_of_isLeaf trivial]
    exact ha
  | object members ending =>
    cases d with
    | zero => cases ha
    | succ d =>
      obtain ⟨key, rfl⟩ := exists_of_decodeNamed ha
      obtain ⟨middle, members', rfl, hmembers, hperm⟩ := h.of_object
      cases hmembers with
      | cons hm hrest =>
        cases hm with
        | intro hnull =>
          cases hrest
          obtain rfl := hnull.eq_of_isLeaf trivial
          rw [← List.singleton_perm.mp hperm]
          exact ha
  | _ => cases ha

/-! ## Records -/

section Rows

variable {cs : List Column} {d : Nat}
  {members middle members' extra : List (Except Json.Fault String × Tree)}

theorem Column.IsFilled.perm {c : Column} {a : c.Carrier} {ts ts' : List Tree}
    (h : c.IsFilled d ts a) (hperm : ts.Perm ts') : c.IsFilled d ts' a := by
  cases h with
  | missing h =>
    obtain rfl := hperm.nil_eq
    exact .missing h
  | read h =>
    rw [← List.singleton_perm.mp hperm]
    exact .read h

theorem Column.IsFilled.of_shuffled {c : Column} (hc : c.codec.IgnoresShuffling) {a : c.Carrier}
    {ts ts' : List Tree} (h : c.IsFilled d ts a) (hts : List.Forall₂ Shuffled ts ts')
    (hparts : ∀ t ∈ ts, t.IsUnambiguous) : c.IsFilled d ts' a := by
  cases h with
  | missing h =>
    cases hts
    exact .missing h
  | read h =>
    cases hts with
    | cons ht hrest =>
      cases hrest
      exact .read (hc ht (hparts _ List.mem_cons_self) h)

theorem forall₂_named_of_keyed {R : Tree → Tree → Prop} (name : String)
    (h : List.Forall₂ (Keyed R) members middle) :
    List.Forall₂ R (named name members) (named name middle) := by
  induction h with
  | nil => exact .nil
  | cons hm _ ih =>
    cases hm with
    | @intro key t t' ht =>
      cases key with
      | error fault => exact ih
      | ok k =>
        rw [named, named]
        split_ifs
        · exact .cons ht ih
        · exact ih

theorem Row.IsNamed.perm {row : Row cs} (h : IsNamed d members cs row)
    (hperm : members.Perm members') : IsNamed d members' cs row := by
  induction cs with
  | nil => trivial
  | cons c cs ih =>
    refine ⟨h.1.perm ?_, ih h.2⟩
    rw [named_eq_filterMap, named_eq_filterMap]
    exact hperm.filterMap _

theorem Row.IsNamed.of_shuffled (hcs : ∀ c ∈ cs, c.codec.IgnoresShuffling) {row : Row cs}
    (h : IsNamed d members cs row) (hmembers : List.Forall₂ (Keyed Shuffled) members middle)
    (hparts : ∀ m ∈ members, m.2.IsUnambiguous) : IsNamed d middle cs row := by
  induction cs with
  | nil => trivial
  | cons c cs ih =>
    obtain ⟨hc, hcs⟩ := List.forall_mem_cons.mp hcs
    refine ⟨h.1.of_shuffled hc (forall₂_named_of_keyed c.name hmembers) fun t ht => ?_, ih hcs h.2⟩
    obtain ⟨m, hm, rfl⟩ := mem_of_mem_named ht
    exact hparts m hm

theorem Row.IsInOrder.of_shuffled (hcs : ∀ c ∈ cs, c.codec.IgnoresShuffling) {row : Row cs}
    {items items' : List Tree} (h : IsInOrder d cs items row)
    (hitems : List.Forall₂ Shuffled items items') (hparts : ∀ t ∈ items, t.IsUnambiguous) :
    IsInOrder d cs items' row := by
  induction cs generalizing items items' with
  | nil =>
    obtain rfl : items = [] := h
    exact List.forall₂_nil_left_iff.mp hitems
  | cons c cs ih =>
    obtain ⟨hc, hcs⟩ := List.forall_mem_cons.mp hcs
    refine ⟨h.1.of_shuffled hc (List.forall₂_take 1 hitems) fun t ht => ?_,
      ih hcs h.2 (List.forall₂_drop 1 hitems) fun t ht => ?_⟩
    · exact hparts t (List.mem_of_mem_take ht)
    · exact hparts t (List.mem_of_mem_drop ht)

theorem isReadable_of_keys (hkeys : ∀ m ∈ members, ∃ k, m.1 = .ok k)
    (hparts : ∀ m ∈ members, m.2.IsClosed) : Slots.IsReadable members :=
  fun m hm => ⟨hkeys m hm, skip_of_isClosed m.2 (hparts m hm)⟩

theorem exists_key_of_keyed {R : Tree → Tree → Prop} (h : List.Forall₂ (Keyed R) members middle)
    (hperm : middle.Perm members') (hkeys : ∀ m ∈ members, ∃ k, m.1 = .ok k) :
    ∀ m ∈ members', ∃ k, m.1 = .ok k := by
  intro n hn
  obtain ⟨m, hm, hmn⟩ := exists_of_mem_forall₂ h (hperm.mem_iff.mpr hn)
  cases hmn with
  | intro _ =>
    obtain ⟨k, hk⟩ := hkeys _ hm
    exact ⟨k, hk⟩

theorem ignoresShuffling_row {record : String} (hnodup : (cs.map Column.name).Nodup)
    (hstrict : ∀ c ∈ cs, c.codec.IsStrict) (hcs : ∀ c ∈ cs, c.codec.IgnoresShuffling) :
    (row record cs).IgnoresShuffling := by
  intro d t t' r h ht hr
  have ht' := h.isUnambiguous ht
  cases t with
  | object members ending =>
    obtain ⟨middle, members', rfl, hmembers, hperm⟩ := h.of_object
    obtain ⟨rfl, -, hparts⟩ := isUnambiguous_object_iff.mp ht
    obtain ⟨-, -, hparts'⟩ := isUnambiguous_object_iff.mp ht'
    cases d with
    | zero => cases hr
    | succ d =>
      obtain ⟨hread, hnamed⟩ := (decode_row_object_iff hnodup hstrict).mp hr
      apply (decode_row_object_iff hnodup hstrict).mpr
      constructor
      · apply isReadable_of_keys
        · exact exists_key_of_keyed hmembers hperm fun m hm => (hread m hm).1
        · exact fun m hm => (hparts' m hm).isClosed
      · exact (hnamed.of_shuffled hcs hmembers hparts).perm hperm
  | array items ending =>
    obtain ⟨items', rfl, hitems⟩ := h.of_array
    obtain ⟨rfl, hparts⟩ := isUnambiguous_array_iff.mp ht
    cases d with
    | zero => cases hr
    | succ d =>
      apply decode_row_array_iff.mpr
      exact (decode_row_array_iff.mp hr).of_shuffled hcs hitems hparts
  | _ => cases hr

/-- Some members of shuffled objects, chosen by their keys, make shuffled objects. -/
theorem shuffled_filter {f : Except Json.Fault String → Bool} {ending : Json.ObjectEnd Tree}
    (hmembers : List.Forall₂ (Keyed Shuffled) members middle) (hperm : middle.Perm members') :
    Shuffled (.object (members.filter fun m => f m.1) ending)
      (.object (members'.filter fun m => f m.1) ending) := by
  refine .inObject (List.rel_filter ?_ hmembers) (hperm.filter _)
  rintro m n ⟨ht⟩
  exact Iff.rfl

theorem isUnambiguous_filter {f : Except Json.Fault String × Tree → Bool}
    (h : (object members .closed).IsUnambiguous) :
    (object (members.filter f) .closed).IsUnambiguous := by
  obtain ⟨-, hnodup, hparts⟩ := isUnambiguous_object_iff.mp h
  refine isUnambiguous_object_iff.mpr ⟨rfl, ?_, fun m hm => hparts m (List.mem_filter.mp hm).1⟩
  exact hnodup.sublist (List.filter_sublist.filterMap _)

theorem ignoresShuffling_openRow {record : String} (hnodup : (cs.map Column.name).Nodup)
    (hstrict : ∀ c ∈ cs, c.codec.IsStrict) (hcs : ∀ c ∈ cs, c.codec.IgnoresShuffling) :
    (openRow record cs).IgnoresShuffling := by
  intro d t t' r h ht hr
  cases t with
  | object members ending =>
    obtain ⟨middle, members', rfl, hmembers, hperm⟩ := h.of_object
    obtain ⟨rfl, -, -⟩ := isUnambiguous_object_iff.mp ht
    cases d with
    | zero => cases hr
    | succ d =>
      obtain ⟨r, others⟩ := r
      obtain ⟨hkeys, hrow, hmap⟩ := decode_openRow_iff.mp hr
      refine decode_openRow_iff.mpr ⟨exists_key_of_keyed hmembers hperm hkeys, ?_, ?_⟩
      · exact ignoresShuffling_row hnodup hstrict hcs (shuffled_filter hmembers hperm)
          (isUnambiguous_filter ht) hrow
      · exact ignoresShuffling_keyed ignoresShuffling_value
          (shuffled_filter (f := fun key => !namesColumn cs key) hmembers hperm)
          (isUnambiguous_filter ht) hmap
  | _ => cases hr

theorem Row.isNamed_append_iff (hnone : ∀ c ∈ cs, named c.name extra = []) {row : Row cs} :
    IsNamed d (members ++ extra) cs row ↔ IsNamed d members cs row := by
  induction cs with
  | nil => exact Iff.rfl
  | cons c cs ih =>
    obtain ⟨hc, hcs⟩ := List.forall_mem_cons.mp hnone
    apply and_congr _ (ih hcs)
    rw [named_eq_filterMap, List.filterMap_append, ← named_eq_filterMap, ← named_eq_filterMap, hc,
      List.append_nil]

/-- Members with names of no column are passed over. -/
theorem decode_row_added {record : String} (hnodup : (cs.map Column.name).Nodup)
    (hstrict : ∀ c ∈ cs, c.codec.IsStrict) (hperm : members'.Perm (members ++ extra))
    (hextra : ∀ m ∈ extra, ∃ k, m.1 = .ok k ∧ k ∉ cs.map Column.name)
    (hclosed : ∀ m ∈ extra, m.2.IsClosed) {r : Row cs} :
    (row record cs).decode (d + 1) (.object members .closed) = .ok r ↔
      (row record cs).decode (d + 1) (.object members' .closed) = .ok r := by
  have hnone : ∀ c ∈ cs, named c.name extra = [] := by
    intro c hc
    apply named_eq_nil
    intro hname
    obtain ⟨m, hm, hkey⟩ := List.mem_filterMap.mp hname
    obtain ⟨k, hk, hnot⟩ := hextra m hm
    rw [hk] at hkey
    cases hkey
    exact hnot (List.mem_map_of_mem hc)
  have hread : Slots.IsReadable extra :=
    isReadable_of_keys (fun m hm => (hextra m hm).imp fun _ => And.left) hclosed
  rw [decode_row_object_iff hnodup hstrict, decode_row_object_iff hnodup hstrict]
  constructor
  · rintro ⟨hmembers, hnamed⟩
    refine ⟨fun m hm => ?_, ((Row.isNamed_append_iff hnone).mpr hnamed).perm hperm.symm⟩
    exact (List.mem_append.mp (hperm.mem_iff.mp hm)).elim (hmembers m) (hread m)
  · rintro ⟨hmembers, hnamed⟩
    refine ⟨fun m hm => ?_, (Row.isNamed_append_iff hnone).mp (hnamed.perm hperm)⟩
    exact hmembers m (hperm.mem_iff.mpr (List.mem_append_left _ hm))

theorem ignoresShuffling_record {record : String} {f : Row cs → β} {g : β → Row cs}
    (hnodup : (cs.map Column.name).Nodup) (hstrict : ∀ c ∈ cs, c.codec.IsStrict)
    (hcs : ∀ c ∈ cs, c.codec.IgnoresShuffling) : ((row record cs).map f g).IgnoresShuffling :=
  ignoresShuffling_map (ignoresShuffling_row hnodup hstrict hcs)

end Rows

section Columns

variable {name : String}

@[simp] theorem ignoresShuffling_required (hc : c.IgnoresShuffling) :
    (required name c).codec.IgnoresShuffling := hc

@[simp] theorem ignoresShuffling_withDefault {a : α} (hc : c.IgnoresShuffling) :
    (withDefault name c a).codec.IgnoresShuffling := hc

/-- A column that may be null or missing. -/
@[simp] theorem ignoresShuffling_optional (hc : c.IgnoresShuffling) :
    (withDefault name (nullable c) none).codec.IgnoresShuffling := ignoresShuffling_nullable hc

end Columns

end IdentityApi.Codec
