import IdentityApi.Codec.Record
import IdentityApi.Proofs.Codec.Basic

/-! # Records are stable

A record is stable when its columns are, defaults included, and no two columns share a name: every
value of a decoded row is settled, whichever form the row was read from, and the object that is
written fills each column from its own member.
-/
namespace IdentityApi.Codec

open Json (Tree Value ok_of_bind ok_of_map)

variable {depth : Nat} {cs : List Column}

/-- The values that a column reads, and the one it may assume, are settled. -/
structure Column.IsStable (c : Column) (depth : Nat) : Prop where
  codec : c.codec.IsStable depth
  default : ∀ {d : Nat}, depth ≤ d → ∀ a ∈ c.default, c.codec.IsSettled d a

section Columns

variable {α : Type} {c : Codec α} {name : String}

@[simp] theorem isStable_required (hc : c.IsStable depth) : (required name c).IsStable depth :=
  ⟨hc, nofun⟩

/-- A default that needs some depth itself. -/
theorem isStable_withRecord {a : α} (hc : c.IsStable depth)
    (ha : ∀ {d}, depth ≤ d → c.IsSettled d a) : (withDefault name c a).IsStable depth := by
  refine ⟨hc, ?_⟩
  rintro d hd b ⟨⟩
  exact ha hd

@[simp] theorem isStable_withDefault {a : α} (hc : c.IsStable depth)
    (ha : ∀ d, c.IsSettled d a) : (withDefault name c a).IsStable depth :=
  isStable_withRecord hc fun _ => ha _

/-- A column that may be null or missing. -/
@[simp] theorem isStable_optional (hc : c.IsStable depth) (hnull : NeverNull c) :
    (withDefault name (nullable c) none).IsStable depth :=
  isStable_withDefault (isStable_nullable hc hnull) isSettled_none

/-- A list that may be missing. -/
@[simp] theorem isStable_withNil (hc : c.IsStable depth) :
    (withDefault name (list c) []).IsStable (depth + 1) :=
  isStable_withRecord (isStable_list hc) fun hd => isSettled_nil (by omega)

/-- A map that may be missing. -/
@[simp] theorem isStable_withNoKeys (hc : c.IsStable depth) :
    (withDefault name (keyed c) ∅).IsStable (depth + 1) :=
  isStable_withRecord (isStable_keyed hc) fun hd => isSettled_noKeys (by omega)

end Columns

/-- Every value of a row is settled. -/
def Row.IsSettled (d : Nat) : (cs : List Column) → Row cs → Prop
  | [], _ => True
  | c :: cs, (a, row) => c.codec.IsSettled d a ∧ Row.IsSettled d cs row

namespace Slots

/-- Every value that is known so far is settled. -/
def IsSettled (d : Nat) : (cs : List Column) → Slots cs → Prop
  | [], _ => True
  | c :: cs, (slot, rest) => (∀ a ∈ slot, c.codec.IsSettled d a) ∧ IsSettled d cs rest

/-- The slots of a row, all of them filled. -/
def ofRow : (cs : List Column) → Row cs → Slots cs
  | [], _ => ()
  | _ :: cs, (a, row) => (some a, ofRow cs row)

theorem isSettled_empty (d : Nat) (cs : List Column) : IsSettled d cs (empty cs) := by
  induction cs with
  | nil => trivial
  | cons c cs ih => exact ⟨by simp, ih⟩

theorem accept_cons (d : Nat) (name : String) (t : Tree) (c : Column) (slot : Option c.Carrier)
    (rest : Slots cs) :
    accept d name t (c :: cs) (slot, rest) =
      if c.name = name then
        match slot with
        | some _ => .error (.duplicateField name)
        | none => (c.codec.decode d t).map fun a => (some a, rest)
      else (accept d name t cs rest).map fun rest => (slot, rest) := rfl

theorem toRow_some (c : Column) (a : c.Carrier) (rest : Slots cs) :
    toRow (c :: cs) (some a, rest) = (toRow cs rest).map fun row => (a, row) := by
  rw [toRow]
  cases toRow cs rest <;> rfl

theorem toRow_none (c : Column) (rest : Slots cs) :
    toRow (c :: cs) (none, rest) = match c.default with
      | some a => (toRow cs rest).map fun row => (a, row)
      | none => .error (.missingField c.name) := by
  cases hdefault : c.default with
  | some a =>
    rw [toRow.eq_3 c cs rest a hdefault]
    cases toRow cs rest <;> rfl
  | none =>
    rw [toRow.eq_4 c cs rest hdefault]
    rfl

/-! ## What reading gives -/

theorem isSettled_accept (hcs : ∀ c ∈ cs, c.IsStable depth) {d : Nat} (hd : depth ≤ d)
    {name : String} {t : Tree} (ht : t.IsWhole) {slots slots' : Slots cs}
    (hslots : IsSettled d cs slots) (h : slots.accept d name t cs = .ok slots') :
    IsSettled d cs slots' := by
  induction cs with
  | nil => trivial
  | cons c cs ih =>
    obtain ⟨slot, rest⟩ := slots
    obtain ⟨hc, hcs⟩ := List.forall_mem_cons.mp hcs
    rw [accept_cons] at h
    split_ifs at h
    · cases slot with
      | some a => cases h
      | none =>
        obtain ⟨a, ha, rfl⟩ := ok_of_map h
        refine ⟨fun b hb => ?_, hslots.2⟩
        cases hb
        exact hc.codec hd ht ha
    · obtain ⟨rest', hrest, rfl⟩ := ok_of_map h
      exact ⟨hslots.1, ih hcs hslots.2 hrest⟩

theorem isSettled_acceptAll (hcs : ∀ c ∈ cs, c.IsStable depth) {d : Nat} (hd : depth ≤ d)
    {members : List (Except Json.Fault String × Tree)} (ht : Tree.HoldWhole members)
    {slots slots' : Slots cs} (hslots : IsSettled d cs slots)
    (h : acceptAll d cs members slots = .ok slots') : IsSettled d cs slots' := by
  induction members generalizing slots with
  | nil =>
    cases h
    exact hslots
  | cons m members ih =>
    obtain ⟨k, -, h⟩ := ok_of_bind h
    obtain ⟨slots'', hslots'', h⟩ := ok_of_bind h
    exact ih ht.2 (isSettled_accept hcs hd ht.1 hslots hslots'') h

theorem isSettled_toRow (hcs : ∀ c ∈ cs, c.IsStable depth) {d : Nat} (hd : depth ≤ d)
    {slots : Slots cs} (hslots : IsSettled d cs slots) {row : Row cs}
    (h : slots.toRow cs = .ok row) : Row.IsSettled d cs row := by
  induction cs with
  | nil => trivial
  | cons c cs ih =>
    obtain ⟨slot, rest⟩ := slots
    obtain ⟨hc, hcs⟩ := List.forall_mem_cons.mp hcs
    cases slot with
    | some a =>
      rw [toRow_some] at h
      obtain ⟨row', hrow', rfl⟩ := ok_of_map h
      exact ⟨hslots.1 a rfl, ih hcs hslots.2 hrow'⟩
    | none =>
      rw [toRow_none] at h
      cases hdefault : c.default with
      | some a =>
        rw [hdefault] at h
        obtain ⟨row', hrow', rfl⟩ := ok_of_map h
        exact ⟨hc.default hd a hdefault, ih hcs hslots.2 hrow'⟩
      | none =>
        rw [hdefault] at h
        cases h

end Slots

theorem Row.isSettled_ofItems (hcs : ∀ c ∈ cs, c.IsStable depth) {d : Nat} (hd : depth ≤ d)
    {record : String} {width index : Nat} {items : List Tree} {ending : Json.ArrayEnd}
    (ht : Tree.AreWhole items) {row : Row cs}
    (h : ofItems d record width cs index items ending = .ok row) : Row.IsSettled d cs row := by
  induction cs generalizing index items with
  | nil => trivial
  | cons c cs ih =>
    obtain ⟨hc, hcs⟩ := List.forall_mem_cons.mp hcs
    cases items with
    | nil =>
      unfold ofItems at h
      obtain ⟨⟨⟩, -, h⟩ := ok_of_bind h
      split at h
      next => cases h
      next a hdefault =>
        obtain ⟨row', hrow', h⟩ := ok_of_bind h
        cases h
        have hnone : Tree.AreWhole [] := trivial
        exact ⟨hc.default hd a hdefault, ih hcs hnone hrow'⟩
    | cons t items =>
      unfold ofItems at h
      obtain ⟨a, ha, h⟩ := ok_of_bind h
      obtain ⟨row', hrow', h⟩ := ok_of_bind h
      cases h
      exact ⟨hc.codec hd ht.1 ha, ih hcs ht.2 hrow'⟩

/-! ## Reading what was written -/

namespace Slots

/-- Members of other names pass a column by. -/
theorem acceptAll_skip {c : Column} {d : Nat} {l : List (String × Value)}
    (h : ∀ m ∈ l, c.name ≠ m.1) (slot : Option c.Carrier) (rest : Slots cs) :
    acceptAll d (c :: cs) (Tree.ofMembers l) (slot, rest) =
      (acceptAll d cs (Tree.ofMembers l) rest).map fun rest => (slot, rest) := by
  induction l generalizing rest with
  | nil => rfl
  | cons m l ih =>
    obtain ⟨hm, hl⟩ := List.forall_mem_cons.mp h
    have hhead : accept d m.1 (.ofValue m.2) (c :: cs) (slot, rest) =
        (accept d m.1 (.ofValue m.2) cs rest).map fun rest => (slot, rest) := by
      rw [accept_cons, if_neg hm]
    change (accept d m.1 (.ofValue m.2) (c :: cs) (slot, rest) >>=
      acceptAll d (c :: cs) (Tree.ofMembers l)) = (accept d m.1 (.ofValue m.2) cs rest >>=
        acceptAll d cs (Tree.ofMembers l)).map _
    rw [hhead]
    cases accept d m.1 (.ofValue m.2) cs rest with
    | error fault => rfl
    | ok rest' => exact ih hl rest'

theorem toRow_ofRow (row : Row cs) : (ofRow cs row).toRow cs = .ok row := by
  induction cs with
  | nil => rfl
  | cons c cs ih =>
    obtain ⟨a, row⟩ := row
    rw [ofRow, toRow_some, ih]
    rfl

end Slots

namespace Row

theorem map_fst_members (row : Row cs) :
    (members cs row).map Prod.fst = cs.map Column.name := by
  induction cs with
  | nil => rfl
  | cons c cs ih =>
    obtain ⟨a, row⟩ := row
    exact congrArg (c.name :: ·) (ih row)

theorem holdWhole_members {d : Nat} {row : Row cs} (h : Row.IsSettled d cs row) :
    Value.HoldWhole (members cs row) := by
  induction cs with
  | nil => trivial
  | cons c cs ih =>
    obtain ⟨a, row⟩ := row
    exact ⟨h.1.isWhole, ih h.2⟩

/-- Each member goes into the slot of its column. -/
theorem acceptAll_members (hnodup : (cs.map Column.name).Nodup) {d : Nat} {row : Row cs}
    (h : Row.IsSettled d cs row) :
    (Slots.empty cs).acceptAll d cs (Tree.ofMembers (members cs row)) =
      .ok (Slots.ofRow cs row) := by
  induction cs with
  | nil => rfl
  | cons c cs ih =>
    obtain ⟨a, row⟩ := row
    rw [List.map_cons, List.nodup_cons] at hnodup
    have hothers : ∀ m ∈ members cs row, c.name ≠ m.1 := by
      intro m hm hname
      refine hnodup.1 ?_
      rw [← map_fst_members row, hname]
      exact List.mem_map_of_mem hm
    have hfirst : Slots.accept d c.name (.ofValue (c.codec.encode a)) (c :: cs)
        (none, Slots.empty cs) = .ok (some a, Slots.empty cs) := by
      rw [Slots.accept_cons, if_pos rfl, h.1.decode_encode]
      rfl
    change (Slots.accept d c.name (.ofValue (c.codec.encode a)) (c :: cs)
      (none, Slots.empty cs) >>=
        Slots.acceptAll d (c :: cs) (Tree.ofMembers (members cs row))) = _
    rw [hfirst]
    change Slots.acceptAll d (c :: cs) (Tree.ofMembers (members cs row))
      (some a, Slots.empty cs) = _
    rw [Slots.acceptAll_skip hothers, ih hnodup.2 h.2]
    rfl

end Row

theorem isSettled_row {record : String} (hnodup : (cs.map Column.name).Nodup) {d : Nat}
    {r : Row cs} (h : Row.IsSettled d cs r) : (row record cs).IsSettled (d + 1) r := by
  refine ⟨?_, Row.holdWhole_members h⟩
  change ((Slots.empty cs).acceptAll d cs (Tree.ofMembers (Row.members cs r)) >>=
    fun slots => _) = _
  rw [Row.acceptAll_members hnodup h]
  exact Slots.toRow_ofRow r

theorem isStable_row {record : String} (hnodup : (cs.map Column.name).Nodup)
    (hcs : ∀ c ∈ cs, c.IsStable depth) : (row record cs).IsStable (depth + 1) := by
  intro d t r hd ht h
  cases t with
  | object members ending =>
    cases d with
    | zero => cases h
    | succ d =>
      have hd := Nat.le_of_succ_le_succ hd
      obtain ⟨slots, hslots, h⟩ := ok_of_bind h
      obtain ⟨⟨⟩, -, h⟩ := ok_of_bind h
      have hsettled := Slots.isSettled_acceptAll hcs hd ht (Slots.isSettled_empty d cs) hslots
      exact isSettled_row hnodup (Slots.isSettled_toRow hcs hd hsettled h)
  | array items ending =>
    cases d with
    | zero => cases h
    | succ d =>
      exact isSettled_row hnodup
        (Row.isSettled_ofItems hcs (Nat.le_of_succ_le_succ hd) ht h)
  | _ => cases h

section Records

variable {record : String} {β : Type} {f : Row cs → β} {g : β → Row cs}

theorem isStable_record (hnodup : (cs.map Column.name).Nodup)
    (hcs : ∀ c ∈ cs, c.IsStable depth) (hgf : ∀ r, g (f r) = r) :
    ((row record cs).map f g).IsStable (depth + 1) :=
  isStable_map (isStable_row hnodup hcs) hgf

theorem isSettled_record {d : Nat} {b : β} (hnodup : (cs.map Column.name).Nodup)
    (h : Row.IsSettled d cs (g b)) (hfg : f (g b) = b) :
    ((row record cs).map f g).IsSettled (d + 1) b :=
  isSettled_map (isSettled_row hnodup h) hfg

theorem neverNull_record : NeverNull ((row record cs).map f g) := nofun

end Records

/-! ## Records that keep every member -/

/-- A column of this name. -/
def HasName (cs : List Column) (name : String) : Prop := (cs.any fun c => c.name == name) = true

theorem isSettled_collect (hcs : ∀ c ∈ cs, c.IsStable depth) {d : Nat} (hd : depth ≤ d)
    {members : List (Except Json.Fault String × Tree)} (ht : Tree.HoldWhole members)
    {slots slots' : Slots cs} {others : List (String × Value)}
    (hslots : Slots.IsSettled d cs slots)
    (h : collect d cs members slots = .ok (slots', others)) :
    Slots.IsSettled d cs slots' ∧ ∀ m ∈ others, m.2.IsSettled d ∧ ¬ HasName cs m.1 := by
  induction members generalizing slots others with
  | nil =>
    cases h
    exact ⟨hslots, by simp⟩
  | cons m members ih =>
    obtain ⟨key, t⟩ := m
    obtain ⟨k, -, h⟩ := ok_of_bind h
    split at h
    next =>
      obtain ⟨slots'', hslots'', h⟩ := ok_of_bind h
      exact ih ht.2 (Slots.isSettled_accept hcs hd ht.1 hslots hslots'') h
    next hname =>
      obtain ⟨v, hv, h⟩ := ok_of_bind h
      obtain ⟨⟨slots'', others'⟩, hrest, h⟩ := ok_of_bind h
      cases h
      obtain ⟨hsettled, hothers⟩ := ih ht.2 hslots hrest
      exact ⟨hsettled, List.forall_mem_cons.mpr
        ⟨⟨Value.isSettled_of_value t ht.1 (ok_of_liftJson hv), hname⟩, hothers⟩⟩

/-- Members with the names of columns are accepted, whatever follows. -/
theorem collect_append {d : Nat} {l : List (String × Value)} (h : ∀ m ∈ l, HasName cs m.1)
    (rest : List (Except Json.Fault String × Tree)) (slots : Slots cs) :
    collect d cs (Tree.ofMembers l ++ rest) slots =
      (slots.acceptAll d cs (Tree.ofMembers l) >>= collect d cs rest) := by
  induction l generalizing slots with
  | nil => rfl
  | cons m l ih =>
    obtain ⟨hm, hl⟩ := List.forall_mem_cons.mp h
    change (if (cs.any fun c => c.name == m.1) = true then
      slots.accept d m.1 (.ofValue m.2) cs >>= collect d cs (Tree.ofMembers l ++ rest) else _) =
        ((slots.accept d m.1 (.ofValue m.2) cs >>= Slots.acceptAll d cs (Tree.ofMembers l)) >>=
          collect d cs rest)
    rw [if_pos (show (cs.any fun c => c.name == m.1) = true from hm)]
    cases slots.accept d m.1 (.ofValue m.2) cs with
    | error fault => rfl
    | ok slots' => exact ih hl slots'

/-- A member of another name is kept in front of those that follow. -/
theorem collect_other {d : Nat} {k : String} {t : Tree} {v : Value}
    {rest : List (Except Json.Fault String × Tree)} {slots slots' : Slots cs}
    {others : List (String × Value)} (hname : ¬ HasName cs k) (hv : t.value d = .ok v)
    (hrest : collect d cs rest slots = .ok (slots', others)) :
    collect d cs ((.ok k, t) :: rest) slots = .ok (slots', (k, v) :: others) := by
  have hany : ¬ (cs.any fun c => c.name == k) = true := hname
  rw [collect, hv, hrest]
  change (if (cs.any fun c => c.name == k) = true then _ else _) = _
  rw [if_neg hany]
  rfl

theorem collect_others {d : Nat} {l : List (String × Value)}
    (h : ∀ m ∈ l, m.2.IsSettled d ∧ ¬ HasName cs m.1) (slots : Slots cs) :
    collect d cs (Tree.ofMembers l) slots = .ok (slots, l) ∧ Value.HoldWhole l := by
  induction l with
  | nil => exact ⟨rfl, trivial⟩
  | cons m l ih =>
    obtain ⟨⟨hm, hname⟩, hl⟩ := List.forall_mem_cons.mp h
    obtain ⟨hrest, hwhole⟩ := ih hl
    refine ⟨?_, hm.2, hwhole⟩
    exact collect_other hname hm.1 hrest

theorem ofMembers_append (l m : List (String × Value)) :
    Tree.ofMembers (l ++ m) = Tree.ofMembers l ++ Tree.ofMembers m := by
  rw [Tree.ofMembers_eq_map, Tree.ofMembers_eq_map, Tree.ofMembers_eq_map, List.map_append]

theorem holdWhole_append {l m : List (String × Value)} (hl : Value.HoldWhole l)
    (hm : Value.HoldWhole m) : Value.HoldWhole (l ++ m) := by
  rw [Value.holdWhole_iff] at hl hm ⊢
  exact List.forall_mem_append.mpr ⟨hl, hm⟩

theorem hasName_of_mem_members {row : Row cs} :
    ∀ m ∈ Row.members cs row, HasName cs m.1 := by
  intro m hm
  have hname : m.1 ∈ cs.map Column.name := by
    rw [← Row.map_fst_members row]
    exact List.mem_map_of_mem hm
  obtain ⟨c, hc, hcm⟩ := List.mem_map.mp hname
  exact List.any_eq_true.mpr ⟨c, hc, beq_iff_eq.mpr hcm⟩

theorem decode_openRow {record : String} {d : Nat}
    {members : List (Except Json.Fault String × Tree)} {ending : Json.ObjectEnd Tree}
    {slots : Slots cs} {others : List (String × Value)} {r : Row cs}
    (hcollect : collect d cs members (Slots.empty cs) = .ok (slots, others))
    (hending : liftJson ending.strict = .ok ()) (hrow : slots.toRow = .ok r) :
    (openRow record cs).decode (d + 1) (.object members ending) =
      .ok (r, KeyMap.ofPairs others) := by
  simp only [openRow, hcollect]
  change (liftJson ending.strict >>= fun _ => _) = _
  rw [hending]
  change (slots.toRow >>= fun _ => _) = _
  rw [hrow]
  rfl

theorem isSettled_openRow {record : String} (hnodup : (cs.map Column.name).Nodup) {d : Nat}
    {r : Row cs} {others : KeyMap Value} (h : Row.IsSettled d cs r)
    (hothers : ∀ m ∈ others.pairs, m.2.IsSettled d ∧ ¬ HasName cs m.1) :
    (openRow record cs).IsSettled (d + 1) (r, others) := by
  obtain ⟨hcollect, hwhole⟩ := collect_others hothers (Slots.ofRow cs r)
  refine ⟨?_, holdWhole_append (Row.holdWhole_members h) hwhole⟩
  have hall : collect d cs (Tree.ofMembers (Row.members cs r ++ others.pairs))
      (Slots.empty cs) = .ok (Slots.ofRow cs r, others.pairs) := by
    rw [ofMembers_append, collect_append hasName_of_mem_members, Row.acceptAll_members hnodup h]
    exact hcollect
  refine (decode_openRow hall rfl (Slots.toRow_ofRow r)).trans ?_
  rw [KeyMap.ofPairs_pairs]

theorem isStable_openRow {record : String} (hnodup : (cs.map Column.name).Nodup)
    (hcs : ∀ c ∈ cs, c.IsStable depth) : (openRow record cs).IsStable (depth + 1) := by
  intro d t p hd ht h
  cases t with
  | object members ending =>
    cases d with
    | zero => cases h
    | succ d =>
      have hd := Nat.le_of_succ_le_succ hd
      obtain ⟨⟨slots, others⟩, hcollect, h⟩ := ok_of_bind h
      obtain ⟨⟨⟩, -, h⟩ := ok_of_bind h
      obtain ⟨r, hr, h⟩ := ok_of_bind h
      cases h
      obtain ⟨hslots, hothers⟩ :=
        isSettled_collect hcs hd ht (Slots.isSettled_empty d cs) hcollect
      exact isSettled_openRow hnodup (Slots.isSettled_toRow hcs hd hslots hr) fun m hm =>
        hothers m (KeyMap.mem_of_mem_ofPairs hm)
  | _ => cases h

end IdentityApi.Codec
