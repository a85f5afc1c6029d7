/-! # Maps with text keys

Pairs in ascending order of keys, one pair a key. A pair is put in its place, so that the order is
kept, and the map of any pairs is built from nothing by putting one after the other.
-/
namespace IdentityApi

/-- Pairs whose keys ascend. -/
def Ascends {α : Type} (l : List (String × α)) : Prop := l.Pairwise fun p q => p.1 < q.1

instance {α : Type} (l : List (String × α)) : Decidable (Ascends l) :=
  inferInstanceAs (Decidable (l.Pairwise fun p q => p.1 < q.1))

@[ext]
structure KeyMap (α : Type) where
  pairs : List (String × α)
  ascends : Ascends pairs

namespace KeyMap

variable {α : Type}

/-- Puts a pair in its place, instead of an older one of its key. -/
def place (key : String) (value : α) : List (String × α) → List (String × α)
  | [] => [(key, value)]
  | (k, v) :: rest =>
    if key < k then (key, value) :: (k, v) :: rest
    else if key = k then (key, value) :: rest
    else (k, v) :: place key value rest

theorem mem_of_mem_place {key : String} {value : α} {l : List (String × α)} {p : String × α}
    (h : p ∈ place key value l) : p = (key, value) ∨ p ∈ l := by
  induction l with
  | nil => exact Or.inl (List.mem_singleton.mp h)
  | cons q rest ih =>
    obtain ⟨k, v⟩ := q
    rw [place] at h
    split at h
    next => exact List.mem_cons.mp h
    next =>
      split at h
      next => exact (List.mem_cons.mp h).imp_right (List.mem_cons_of_mem _)
      next =>
        rcases List.mem_cons.mp h with rfl | h
        · exact Or.inr List.mem_cons_self
        · exact (ih h).imp_right (List.mem_cons_of_mem _)

theorem ascends_place (key : String) (value : α) {l : List (String × α)} (h : Ascends l) :
    Ascends (place key value l) := by
  induction l with
  | nil => exact List.pairwise_singleton _ _
  | cons q rest ih =>
    obtain ⟨k, v⟩ := q
    obtain ⟨hk, hrest⟩ := List.pairwise_cons.mp h
    rw [place]
    split
    next hlt =>
      refine List.pairwise_cons.mpr ⟨fun p hp => ?_, h⟩
      rcases List.mem_cons.mp hp with rfl | hp
      · exact hlt
      · exact Std.lt_trans hlt (hk p hp)
    next hlt =>
      split
      next heq => exact List.pairwise_cons.mpr ⟨heq ▸ hk, hrest⟩
      next heq =>
        refine List.pairwise_cons.mpr ⟨fun p hp => ?_, ih hrest⟩
        rcases mem_of_mem_place hp with rfl | hp
        · exact Std.lt_of_le_of_ne (Std.not_lt.mp hlt) (Ne.symm heq)
        · exact hk p hp

instance : EmptyCollection (KeyMap α) := ⟨⟨[], .nil⟩⟩

/-- Sets the value of a key, replacing an older one. -/
def put (key : String) (value : α) (m : KeyMap α) : KeyMap α :=
  ⟨place key value m.pairs, ascends_place key value m.ascends⟩

/-- The map of some pairs; the last of several with one key counts. -/
def ofPairs (l : List (String × α)) : KeyMap α := l.foldl (fun m (k, v) => put k v m) ∅

instance : Coe (KeyMap α) (List (String × α)) := ⟨pairs⟩

instance : Coe (List (String × α)) (KeyMap α) := ⟨ofPairs⟩

def get? (key : String) (m : KeyMap α) : Option α := m.pairs.lookup key

/-- The pairs that pass a test. -/
def filter (f : String × α → Bool) (m : KeyMap α) : KeyMap α :=
  ⟨m.pairs.filter f, m.ascends.filter f⟩

/-- The map without a key. -/
def remove (key : String) (m : KeyMap α) : KeyMap α := m.filter fun (k, _) => k != key

def length (m : KeyMap α) : Nat := m.pairs.length

def isEmpty (m : KeyMap α) : Bool := m.pairs.isEmpty

end KeyMap

end IdentityApi
