import IdentityApi.Proofs.Codec.Filling
import IdentityApi.Proofs.Json.Parts

/-! # What maps and open records are read from

A map is read from an object whose members each say a pair (`decode_keyed_iff`). A record that keeps
every member is a record and a map side by side: the members with the names of its columns are read
as a record, all others as a map of free values (`decode_openRow_iff`). When all members are free
values, the columns may as well be filled from all of them (`decode_openRow_iff_of_values`).
-/
namespace IdentityApi.Codec

open Json (Tree Value ok_of_bind bind_eq_ok_iff)
open Json.Tree (Says named)

/-! ## Maps -/

variable {α : Type} {c : Codec α} {d : Nat} {members : List (Except Json.Fault String × Tree)}

theorem decodeMembers_cons_ok {k : String} {t : Tree} :
    decodeMembers c d ((.ok k, t) :: members) =
      c.decode d t >>= fun a => decodeMembers c d members >>= fun ps => .ok ((k, a) :: ps) := rfl

theorem decodeMembers_eq_ok_iff {ps : List (String × α)} :
    decodeMembers c d members = .ok ps ↔
      List.Forall₂ (Says fun t a => c.decode d t = .ok a) members ps := by
  induction members generalizing ps with
  | nil => simp [decodeMembers, eq_comm]
  | cons m members ih =>
    obtain ⟨key, t⟩ := m
    rw [decodeMembers, List.forall₂_cons_left_iff]
    simp only [bind_eq_ok_iff, ih]
    constructor
    · rintro ⟨k, hk, a, ha, ps, hps, h⟩
      exact ⟨(k, a), ps, ⟨ok_of_liftJson hk, ha⟩, hps, (Except.ok.inj h).symm⟩
    · rintro ⟨⟨k, a⟩, ps, ⟨hk, ha⟩, hps, rfl⟩
      exact ⟨k, congrArg liftJson hk, a, ha, ps, hps, rfl⟩

theorem decode_keyed_iff {m : KeyMap α} :
    (keyed c).decode (d + 1) (.object members .closed) = .ok m ↔
      ∃ ps, List.Forall₂ (Says fun t a => c.decode d t = .ok a) members ps ∧
        m = KeyMap.ofPairs ps := by
  constructor
  · intro h
    obtain ⟨ps, hps, h⟩ := ok_of_bind h
    exact ⟨ps, decodeMembers_eq_ok_iff.mp hps, (Except.ok.inj h).symm⟩
  · rintro ⟨ps, hps, rfl⟩
    exact bind_eq_ok_iff.mpr ⟨ps, decodeMembers_eq_ok_iff.mpr hps, rfl⟩

/-! ## Records that keep every member -/

variable {cs : List Column}

/-- The key is the name of a column. -/
def namesColumn (cs : List Column) : Except Json.Fault String → Bool
  | .ok k => cs.any fun c => c.name == k
  | .error _ => false

theorem collect_cons_of_column {k : String} {t : Tree} (hk : namesColumn cs (.ok k) = true)
    {slots : Slots cs} : collect d cs ((.ok k, t) :: members) slots =
      slots.accept d k t cs >>= collect d cs members := by
  change (if namesColumn cs (.ok k) = true then _ else _) = _
  rw [if_pos hk]

theorem collect_cons_of_other {k : String} {t : Tree} (hk : namesColumn cs (.ok k) = false)
    {slots : Slots cs} : collect d cs ((.ok k, t) :: members) slots =
      value.decode d t >>= fun v => collect d cs members slots >>= fun (slots, others) =>
        .ok (slots, (k, v) :: others) := by
  change (if namesColumn cs (.ok k) = true then _ else _) = _
  rw [if_neg (by simp [hk])]
  rfl

theorem acceptAll_cons_ok {k : String} {t : Tree} {slots : Slots cs} :
    slots.acceptAll d cs ((.ok k, t) :: members) =
      slots.accept d k t cs >>= Slots.acceptAll d cs members := rfl

/-- The members of columns go into the slots, the others are free values. -/
theorem collect_eq_ok_iff {slots slots' : Slots cs} {others : List (String × Value)} :
    collect d cs members slots = .ok (slots', others) ↔
      (∀ m ∈ members, ∃ k, m.1 = .ok k) ∧
        slots.acceptAll d cs (members.filter fun m => namesColumn cs m.1) = .ok slots' ∧
          decodeMembers value d (members.filter fun m => !namesColumn cs m.1) = .ok others := by
  induction members generalizing slots others with
  | nil => simp [collect, Slots.acceptAll, decodeMembers, Prod.ext_iff, eq_comm]
  | cons m members ih =>
    obtain ⟨key, t⟩ := m
    cases key with
    | error fault =>
      constructor
      · intro h
        cases h
      · rintro ⟨hkeys, -⟩
        obtain ⟨k, hk⟩ := hkeys _ List.mem_cons_self
        cases hk
    | ok k =>
      have hkey : ∃ k', (.ok k : Except Json.Fault String) = .ok k' := ⟨k, rfl⟩
      rw [List.forall_mem_cons, and_iff_right hkey]
      cases hk : namesColumn cs (.ok k) with
      | true =>
        rw [collect_cons_of_column hk]
        simp only [List.filter_cons, hk, if_true, Bool.not_true, Bool.false_eq_true, if_false,
          acceptAll_cons_ok, bind_eq_ok_iff, ih]
        constructor
        · rintro ⟨slots'', haccept, hkeys, hslots, hothers⟩
          exact ⟨hkeys, ⟨slots'', haccept, hslots⟩, hothers⟩
        · rintro ⟨hkeys, ⟨slots'', haccept, hslots⟩, hothers⟩
          exact ⟨slots'', haccept, hkeys, hslots, hothers⟩
      | false =>
        rw [collect_cons_of_other hk]
        simp only [List.filter_cons, hk, if_true, Bool.not_false, Bool.false_eq_true, if_false,
          decodeMembers_cons_ok, bind_eq_ok_iff]
        constructor
        · rintro ⟨v, hv, ⟨slots'', others''⟩, hcollect, h⟩
          cases h
          obtain ⟨hkeys, hslots, hothers⟩ := ih.mp hcollect
          exact ⟨hkeys, hslots, v, hv, _, hothers, rfl⟩
        · rintro ⟨hkeys, hslots, v, hv, others'', hothers, h⟩
          cases h
          exact ⟨v, hv, _, ih.mpr ⟨hkeys, hslots, hothers⟩, rfl⟩

theorem decode_openRow_iff {record : String} {r : Row cs} {others : KeyMap Json.Value} :
    (openRow record cs).decode (d + 1) (.object members .closed) = .ok (r, others) ↔
      (∀ m ∈ members, ∃ k, m.1 = .ok k) ∧
        (row record cs).decode (d + 1)
            (.object (members.filter fun m => namesColumn cs m.1) .closed) = .ok r ∧
          (keyed value).decode (d + 1)
            (.object (members.filter fun m => !namesColumn cs m.1) .closed) = .ok others := by
  constructor
  · intro h
    obtain ⟨⟨slots, ps⟩, hcollect, h⟩ := ok_of_bind h
    obtain ⟨r', hr', h⟩ := ok_of_bind (x := slots.toRow) h
    cases h
    obtain ⟨hkeys, hslots, hps⟩ := collect_eq_ok_iff.mp hcollect
    exact ⟨hkeys, bind_eq_ok_iff.mpr ⟨slots, hslots, hr'⟩, bind_eq_ok_iff.mpr ⟨ps, hps, rfl⟩⟩
  · rintro ⟨hkeys, hrow, hmap⟩
    obtain ⟨slots, hslots, hr⟩ := ok_of_bind hrow
    obtain ⟨ps, hps, h⟩ := ok_of_bind hmap
    cases h
    exact bind_eq_ok_iff.mpr ⟨(slots, ps), collect_eq_ok_iff.mpr ⟨hkeys, hslots, hps⟩,
      bind_eq_ok_iff.mpr ⟨(), rfl, bind_eq_ok_iff.mpr ⟨r, hr, rfl⟩⟩⟩

/-- The columns are filled from the members with their names. -/
theorem named_filter_namesColumn {name : String} (h : namesColumn cs (.ok name) = true) :
    named name (members.filter fun m => namesColumn cs m.1) = named name members := by
  induction members with
  | nil => rfl
  | cons m members ih =>
    obtain ⟨key, t⟩ := m
    rw [List.filter_cons]
    cases key with
    | error fault => exact ih
    | ok k =>
      by_cases hk : k = name
      · subst hk
        rw [if_pos h, named, if_pos rfl, ih, named, if_pos rfl]
      · split_ifs
        · rw [named, if_neg hk, ih, named, if_neg hk]
        · rw [ih, named, if_neg hk]

theorem isNamed_filter_iff {cs' : List Column} (hcs : ∀ c ∈ cs', c ∈ cs) {r : Row cs'} :
    Row.IsNamed d (members.filter fun m => namesColumn cs m.1) cs' r ↔
      Row.IsNamed d members cs' r := by
  induction cs' with
  | nil => exact Iff.rfl
  | cons c cs' ih =>
    obtain ⟨a, r⟩ := r
    obtain ⟨hc, hcs⟩ := List.forall_mem_cons.mp hcs
    have hname : namesColumn cs (.ok c.name) = true :=
      List.any_eq_true.mpr ⟨c, hc, beq_self_eq_true _⟩
    rw [Row.IsNamed, Row.IsNamed, named_filter_namesColumn hname, ih hcs]

/-- What a record that keeps every member is read from, if its members are free values. -/
theorem decode_openRow_iff_of_values {record : String} {ps : List (String × Value)} {r : Row cs}
    {others : KeyMap Json.Value} (hnodup : (cs.map Column.name).Nodup)
    (hstrict : ∀ c ∈ cs, c.codec.IsStrict)
    (hps : List.Forall₂ (Says fun t v => t.value d = .ok v) members ps) :
    (openRow record cs).decode (d + 1) (.object members .closed) = .ok (r, others) ↔
      Row.IsNamed d members cs r ∧
        others = KeyMap.ofPairs (ps.filter fun p => !namesColumn cs (.ok p.1)) := by
  have hkeys : ∀ m ∈ members, ∃ k, m.1 = .ok k := by
    intro m hm
    obtain ⟨p, -, hkey, -⟩ := Json.Tree.exists_said_of_mem hps hm
    exact ⟨p.1, hkey⟩
  have hreadable : Slots.IsReadable (members.filter fun m => namesColumn cs m.1) := by
    intro m hm
    have hm := (List.mem_filter.mp hm).1
    obtain ⟨p, -, -, hp⟩ := Json.Tree.exists_said_of_mem hps hm
    exact ⟨hkeys m hm, isStrict_value (congrArg liftJson hp)⟩
  have hothers : List.Forall₂ (Says fun t v => value.decode d t = .ok v)
      (members.filter fun m => !namesColumn cs m.1)
      (ps.filter fun p => !namesColumn cs (.ok p.1)) := by
    refine List.rel_filter ?_ (hps.imp fun m p h => ⟨h.1, congrArg liftJson h.2⟩)
    intro m p h
    simp only [h.1]
  rw [decode_openRow_iff, decode_row_object_iff hnodup hstrict, and_iff_right hkeys,
    and_iff_right hreadable, isNamed_filter_iff fun _ => id, decode_keyed_iff]
  refine and_congr_right fun _ => ⟨?_, fun h => ⟨_, hothers, h⟩⟩
  rintro ⟨ps', hps', rfl⟩
  have hsame := (decodeMembers_eq_ok_iff.mpr hps').symm.trans (decodeMembers_eq_ok_iff.mpr hothers)
  rw [Except.ok.inj hsame]

end IdentityApi.Codec
