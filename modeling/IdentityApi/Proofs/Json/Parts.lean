import IdentityApi.Proofs.Json.Tree

/-! # Trees part by part

The parts of a tree are the items of an array and the values of the members of an object. What holds
of a tree as soon as it holds of its parts holds of all trees (`byParts`). A free value is read part
by part (`values_eq_ok_iff`, `memberValues_eq_ok_iff`).
-/
namespace IdentityApi.Json.Tree

/-- The tree has no parts. -/
def IsLeaf : Tree → Prop
  | array _ _ | object _ _ => False
  | null | bool _ | number _ | string _ | absent _ | brokenString _ _ | broken _ => True

/-- What holds of a tree as soon as it holds of its parts holds of all trees. -/
@[elab_as_elim]
theorem byParts {P : Tree → Prop} (leaf : ∀ t, t.IsLeaf → P t)
    (array : ∀ items ending, (∀ t ∈ items, P t) → P (array items ending))
    (object : ∀ members ending, (∀ m ∈ members, P m.2) → P (object members ending))
    (t : Tree) : P t := by
  refine @Tree.rec P (fun items => ∀ t ∈ items, P t) (fun members => ∀ m ∈ members, P m.2)
    (fun _ => True) (fun m => P m.2) (leaf _ trivial) (fun _ => leaf _ trivial)
    (fun _ => leaf _ trivial) (fun _ => leaf _ trivial) array
    (fun members ending hmembers _ => object members ending hmembers) (fun _ => leaf _ trivial)
    (fun _ _ => leaf _ trivial) (fun _ => leaf _ trivial) nofun ?_ nofun ?_
    trivial trivial trivial trivial trivial (fun _ _ => trivial) (fun _ _ => trivial) trivial
    (fun _ _ h => h) t
  · intro t items ht hitems
    exact List.forall_mem_cons.mpr ⟨ht, hitems⟩
  · intro m members hm hmembers
    exact List.forall_mem_cons.mpr ⟨hm, hmembers⟩

/-! ## Free values -/

/-- The key of the member says the name, and its tree the value. -/
def Says {α : Type} (R : Tree → α → Prop) (m : Except Fault String × Tree) (p : String × α) :
    Prop := m.1 = .ok p.1 ∧ R m.2 p.2

section Says

variable {α : Type} {R : Tree → α → Prop} {members : List (Except Fault String × Tree)}
  {ps : List (String × α)}

theorem exists_said_of_mem {m : Except Fault String × Tree}
    (h : List.Forall₂ (Says R) members ps) (hm : m ∈ members) : ∃ p ∈ ps, Says R m p := by
  induction h with
  | nil => cases hm
  | cons hmp _ ih =>
    rcases List.mem_cons.mp hm with rfl | hm
    · exact ⟨_, List.mem_cons_self, hmp⟩
    · obtain ⟨p, hp, hsays⟩ := ih hm
      exact ⟨p, List.mem_cons_of_mem _ hp, hsays⟩

theorem map_fst_eq (h : List.Forall₂ (Says R) members ps) :
    members.map Prod.fst = (ps.map Prod.fst).map Except.ok := by
  induction h with
  | nil => rfl
  | cons hmp _ ih => rw [List.map_cons, List.map_cons, List.map_cons, ih, hmp.1]

end Says

variable {d : Nat}

theorem values_eq_ok_iff {items : List Tree} {vs : List Value} :
    values d items = .ok vs ↔ List.Forall₂ (fun t v => t.value d = .ok v) items vs := by
  induction items generalizing vs with
  | nil => simp [values, eq_comm]
  | cons t items ih =>
    rw [values, bind_eq_ok_iff, List.forall₂_cons_left_iff]
    simp only [bind_eq_ok_iff, ih]
    constructor
    · rintro ⟨v, hv, vs, hvs, h⟩
      exact ⟨v, vs, hv, hvs, (Except.ok.inj h).symm⟩
    · rintro ⟨v, vs, hv, hvs, rfl⟩
      exact ⟨v, hv, vs, hvs, rfl⟩

theorem memberValues_eq_ok_iff {members : List (Except Fault String × Tree)}
    {ms : List (String × Value)} :
    memberValues d members = .ok ms ↔
      List.Forall₂ (Says fun t v => t.value d = .ok v) members ms := by
  induction members generalizing ms with
  | nil => simp [memberValues, eq_comm]
  | cons m members ih =>
    obtain ⟨key, t⟩ := m
    rw [memberValues, bind_eq_ok_iff, List.forall₂_cons_left_iff]
    simp only [bind_eq_ok_iff, ih]
    constructor
    · rintro ⟨k, hk, v, hv, ms, hms, h⟩
      exact ⟨(k, v), ms, ⟨hk, hv⟩, hms, (Except.ok.inj h).symm⟩
    · rintro ⟨⟨k, v⟩, ms, ⟨hk, hv⟩, hms, rfl⟩
      exact ⟨k, hk, v, hv, ms, hms, rfl⟩

theorem value_array_eq_ok_iff {items : List Tree} {v : Value} :
    (array items .closed).value (d + 1) = .ok v ↔
      ∃ vs, List.Forall₂ (fun t v => t.value d = .ok v) items vs ∧ v = .array vs := by
  constructor
  · intro h
    obtain ⟨vs, hvs, h⟩ := ok_of_bind h
    exact ⟨vs, values_eq_ok_iff.mp hvs, (Except.ok.inj h).symm⟩
  · rintro ⟨vs, hvs, rfl⟩
    exact bind_eq_ok_iff.mpr ⟨vs, values_eq_ok_iff.mpr hvs, rfl⟩

theorem value_object_eq_ok_iff {members : List (Except Fault String × Tree)} {v : Value} :
    (object members .closed).value (d + 1) = .ok v ↔
      ∃ ms, List.Forall₂ (Says fun t v => t.value d = .ok v) members ms ∧
        v = .object (KeyMap.ofPairs ms).pairs := by
  constructor
  · intro h
    obtain ⟨ms, hms, h⟩ := ok_of_bind h
    exact ⟨ms, memberValues_eq_ok_iff.mp hms, (Except.ok.inj h).symm⟩
  · rintro ⟨ms, hms, rfl⟩
    exact bind_eq_ok_iff.mpr ⟨ms, memberValues_eq_ok_iff.mpr hms, rfl⟩

end IdentityApi.Json.Tree
