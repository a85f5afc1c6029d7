import IdentityApi.Json.Reader
import Mathlib

/-! # Trees that are closed

A text is read into a tree however broken it is. Reading leaves a rest behind a tree that is closed,
and none behind a tree that nothing passes over (`tells`). So what can be passed over at all was
written in full (`isClosed_root`).
-/
namespace IdentityApi.Json

namespace Tree

mutual

/-- Every array and every object of a tree is closed, and nothing in it is cut off or broken. -/
def IsClosed : Tree → Prop
  | null | bool _ | number _ | string _ => True
  | array items ending => ending = .closed ∧ AreClosed items
  | object members ending => ending = .closed ∧ HoldClosed members
  | absent _ | brokenString _ _ | broken _ => False
termination_by structural t => t

def AreClosed : List Tree → Prop
  | [] => True
  | t :: rest => t.IsClosed ∧ AreClosed rest
termination_by structural l => l

def HoldClosed : List (Except Fault String × Tree) → Prop
  | [] => True
  | (_, t) :: rest => t.IsClosed ∧ HoldClosed rest
termination_by structural l => l

end

mutual

/-- What is closed can be passed over. -/
theorem skip_of_isClosed (t : Tree) (h : t.IsClosed) : t.skip = .ok () := by
  cases t with
  | null | bool b | number n | string s => rfl
  | array items ending =>
    obtain ⟨rfl, hitems⟩ := h
    rw [skip, skipItems_of_areClosed items hitems]
    rfl
  | object members ending =>
    obtain ⟨rfl, hmembers⟩ := h
    rw [skip, skipMembers_of_holdClosed members hmembers]
    rfl
  | absent fault | brokenString strict lax | broken fault => exact h.elim
termination_by structural t

theorem skipItems_of_areClosed (l : List Tree) (h : AreClosed l) : skipItems l = .ok () := by
  cases l with
  | nil => rfl
  | cons t rest =>
    rw [skipItems, skip_of_isClosed t h.1]
    exact skipItems_of_areClosed rest h.2
termination_by structural l

theorem skipMembers_of_holdClosed (l : List (Except Fault String × Tree)) (h : HoldClosed l) :
    skipMembers l = .ok () := by
  cases l with
  | nil => rfl
  | cons m rest =>
    obtain ⟨key, t⟩ := m
    rw [skipMembers, skip_of_isClosed t h.1]
    exact skipMembers_of_holdClosed rest h.2
termination_by structural l

end

theorem isClosed_of_mem {items : List Tree} (h : AreClosed items) : ∀ t ∈ items, t.IsClosed := by
  induction items with
  | nil => simp
  | cons t items ih => exact List.forall_mem_cons.mpr ⟨h.1, ih h.2⟩

theorem isClosed_of_mem_members {members : List (Except Fault String × Tree)}
    (h : HoldClosed members) : ∀ m ∈ members, m.2.IsClosed := by
  induction members with
  | nil => simp
  | cons m members ih => exact List.forall_mem_cons.mpr ⟨h.1, ih h.2⟩

/-- What the rest tells about the tree before it. -/
def IsTold (t : Tree) : Option Octets → Prop
  | some _ => t.IsClosed
  | none => t.skip ≠ .ok ()

variable {t : Tree} {items : List Tree} {members : List (Except Fault String × Tree)}
  {key : Except Fault String} {rest : Option Octets}

/-! ## Passing over arrays and objects -/

theorem skip_array_cons (t : Tree) (items : List Tree) (ending : ArrayEnd) :
    (array (t :: items) ending).skip = (t.skip >>= fun () => (array items ending).skip) := by
  rw [skip, skip, skipItems]
  cases t.skip <;> rfl

theorem skip_object_cons (key : Except Fault String) (t : Tree)
    (members : List (Except Fault String × Tree)) (ending : ObjectEnd Tree) :
    (object ((key, t) :: members) ending).skip =
      (t.skip >>= fun () => (object members ending).skip) := by
  rw [skip, skip, skipMembers]
  cases t.skip <;> rfl

theorem skip_array_ne {ending : ArrayEnd} (h : ending.lax ≠ .ok ()) :
    (array items ending).skip ≠ .ok () := by
  rw [skip]
  cases skipItems items with
  | error fault => nofun
  | ok a => exact h

theorem skip_object_ne {ending : ObjectEnd Tree} (h : ending.lax ≠ .ok ()) :
    (object members ending).skip ≠ .ok () := by
  rw [skip]
  cases skipMembers members with
  | error fault => nofun
  | ok a => exact h

/-- An array is told by its items behind the first one, if that is closed. -/
theorem IsTold.array_cons {ending : ArrayEnd} (ht : t.IsClosed)
    (h : IsTold (.array items ending) rest) : IsTold (.array (t :: items) ending) rest := by
  cases rest with
  | some r => exact ⟨h.1, ht, h.2⟩
  | none =>
    rw [IsTold, skip_array_cons]
    cases t.skip with
    | error fault => nofun
    | ok a => exact h

theorem IsTold.object_cons {ending : ObjectEnd Tree} (ht : t.IsClosed)
    (h : IsTold (.object members ending) rest) :
    IsTold (.object ((key, t) :: members) ending) rest := by
  cases rest with
  | some r => exact ⟨h.1, ht, h.2⟩
  | none =>
    rw [IsTold, skip_object_cons]
    cases t.skip with
    | error fault => nofun
    | ok a => exact h

/-- Nothing passes over an array with such an item. -/
theorem isTold_array_broken {ending : ArrayEnd} (ht : t.skip ≠ .ok ()) :
    IsTold (.array (t :: items) ending) none := by
  rw [IsTold, skip_array_cons]
  cases hskip : t.skip with
  | error fault => nofun
  | ok a => exact absurd hskip ht

theorem isTold_object_broken {ending : ObjectEnd Tree} (ht : t.skip ≠ .ok ()) :
    IsTold (.object ((key, t) :: members) ending) none := by
  rw [IsTold, skip_object_cons]
  cases hskip : t.skip with
  | error fault => nofun
  | ok a => exact absurd hskip ht

end Tree

/-! ## Reading -/

namespace Reader

open Json.Tree

theorem isTold_broken (fault : Fault) : IsTold (.broken fault) none := by
  intro h
  cases h

theorem isTold_brokenString (strict lax : Fault) : IsTold (.brokenString strict lax) none := by
  intro h
  cases h

theorem isTold_leaf {b : UInt8} {r : Octets} {found : Tree × Option Octets}
    (h : leaf? b r = some found) : IsTold found.1 found.2 := by
  unfold leaf? at h
  dsimp only at h
  split at h
  · cases h
    cases word ['u', 'l', 'l'] r with
    | ok rest => trivial
    | error fault => exact isTold_broken fault
  · cases h
    cases word ['r', 'u', 'e'] r with
    | ok rest => trivial
    | error fault => exact isTold_broken fault
  · cases h
    cases word ['a', 'l', 's', 'e'] r with
    | ok rest => trivial
    | error fault => exact isTold_broken fault
  · split at h <;> cases h
    · trivial
    · exact isTold_brokenString _ _
  · split at h
    · split at h
      · cases h
        exact isTold_broken _
      · split at h <;> cases h <;> trivial
    · cases h

/-- Reading with this much fuel tells values, items and members by the rest. -/
structure Tells (fuel : Nat) : Prop where
  value : ∀ s, IsTold (readValue fuel s).1 (readValue fuel s).2
  items : ∀ s, IsTold (.array (readItems fuel s).1 (readItems fuel s).2.1) (readItems fuel s).2.2
  members : ∀ s, IsTold (.object (readMembers fuel s).1 (readMembers fuel s).2.1)
    (readMembers fuel s).2.2

theorem tells_zero : Tells 0 where
  value _ := nofun
  items _ := nofun
  members _ := nofun

theorem isTold_readValue {fuel : Nat} (h : Tells fuel) (s : Octets) :
    IsTold (readValue (fuel + 1) s).1 (readValue (fuel + 1) s).2 := by
  unfold readValue
  split
  · nofun
  · split
    next hleaf => exact isTold_leaf hleaf
    next =>
      split_ifs
      · split
        · nofun
        · split_ifs
          · exact ⟨rfl, trivial⟩
          · exact h.items _
      · split
        · nofun
        · split_ifs
          · exact ⟨rfl, trivial⟩
          · exact h.members _
          · nofun
      · nofun

theorem isTold_readItems {fuel : Nat} (h : Tells fuel) (s : Octets) :
    IsTold (.array (readItems (fuel + 1) s).1 (readItems (fuel + 1) s).2.1)
      (readItems (fuel + 1) s).2.2 := by
  have hvalue := h.value s
  unfold readItems
  split
  next t hread =>
    rw [hread] at hvalue
    exact isTold_array_broken hvalue
  next t r hread =>
    rw [hread] at hvalue
    split
    · exact skip_array_ne nofun
    · split_ifs
      · exact ⟨rfl, hvalue, trivial⟩
      · split
        · exact skip_array_ne nofun
        · split_ifs
          · exact skip_array_ne nofun
          · exact (h.items _).array_cons hvalue
      · exact skip_array_ne nofun

theorem isTold_readMembers {fuel : Nat} (h : Tells fuel) (s : Octets) :
    IsTold (.object (readMembers (fuel + 1) s).1 (readMembers (fuel + 1) s).2.1)
      (readMembers (fuel + 1) s).2.2 := by
  unfold readMembers
  split
  · exact skip_object_ne nofun
  next r hkey =>
    dsimp only
    split
    · exact isTold_object_broken nofun
    · split_ifs
      · exact isTold_object_broken nofun
      · rename_i b r' hcons hcolon
        have hvalue := h.value r'
        split
        next t hread =>
          rw [hread] at hvalue
          exact isTold_object_broken hvalue
        next t r'' hread =>
          rw [hread] at hvalue
          split
          · exact skip_object_ne nofun
          · split_ifs
            · exact ⟨rfl, hvalue, trivial⟩
            · split
              · exact skip_object_ne nofun
              · split_ifs
                · exact skip_object_ne nofun
                · exact (h.members _).object_cons hvalue
                · exact skip_object_ne nofun
            · exact skip_object_ne nofun

theorem tells (fuel : Nat) : Tells fuel := by
  induction fuel with
  | zero => exact tells_zero
  | succ fuel ih => exact ⟨isTold_readValue ih, isTold_readItems ih, isTold_readMembers ih⟩

end Reader

/-- A text that can be passed over is closed. -/
theorem isClosed_root {s : Octets} (h : (read s).root.skip = .ok ()) :
    (read s).root.IsClosed := by
  have htold := (Reader.tells (2 * s.length + 1)).value s
  unfold read at h ⊢
  split at h
  next t hread =>
    rw [hread] at htold
    exact absurd h htold
  next t r hread =>
    rw [hread] at htold
    exact htold

end IdentityApi.Json
