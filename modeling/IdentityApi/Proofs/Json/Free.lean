import IdentityApi.Proofs.Codec.Sorting
import IdentityApi.Proofs.Json.Spelling

/-! # Free values of texts

Every number of a text is the number of a literal, so an integer in a text fits 64 bits
(`Tree.isWhole_of_hasNumber`). A free value without other numbers is therefore read back from its
own text (`Value.ofText?_compact`).
-/
namespace IdentityApi.Json

/-! ## Literals -/

namespace Literal

theorem gather_lt {n : Nat} (h : n < UInt64.size) (ds : List Nat) :
    (gather n ds).1 < UInt64.size := by
  induction ds generalizing n with
  | nil => exact h
  | cons d ds ih =>
    rw [gather]
    split_ifs with hfits
    · exact ih hfits
    · exact h

/-- The integer of a literal fits 64 bits. -/
theorem fits_of_number {l : Literal} {n : Int} (h : l.number = some (.integer n)) : Fits n := by
  have hlt : (gather 0 l.whole).1 < 18446744073709551616 := gather_lt (by decide) l.whole
  unfold number at h
  dsimp only at h
  split_ifs at h
  · have hwhole : whole? l.negative (gather 0 l.whole).1 = .integer n := Option.some.inj h
    unfold whole? at hwhole
    split_ifs at hwhole with hnegative hlow
    · cases hwhole
      exact ⟨by omega, by omega⟩
    · cases hwhole
      exact ⟨by omega, by omega⟩
  · obtain ⟨x, -, hx⟩ := Option.map_eq_some_iff.mp h
    cases hx

end Literal

/-! ## Trees that are read -/

namespace Reader

/-- True of all leaves and faults, and passed on to arrays and objects by their parts. -/
structure IsGrown (P : Tree → Prop) : Prop where
  leaf : ∀ b r found, leaf? b r = some found → P found.1
  absent : ∀ fault, P (.absent fault)
  broken : ∀ fault, P (.broken fault)
  array : ∀ items ending, (∀ t ∈ items, P t) → P (.array items ending)
  object : ∀ members ending, (∀ m ∈ members, P m.2) → P (.object members ending)

namespace IsGrown

variable {P : Tree → Prop}

theorem readValue_succ (h : IsGrown P) {fuel : Nat}
    (hitems : ∀ s, ∀ t ∈ (readItems fuel s).1, P t)
    (hmembers : ∀ s, ∀ m ∈ (readMembers fuel s).1, P m.2) (s : Octets) :
    P (readValue (fuel + 1) s).1 := by
  unfold readValue
  split
  · exact h.absent _
  · split
    next hleaf => exact h.leaf _ _ _ hleaf
    next =>
      split_ifs
      · split
        · exact h.array _ _ (by simp)
        · split_ifs
          · exact h.array _ _ (by simp)
          · exact h.array _ _ (hitems _)
      · split
        · exact h.object _ _ (by simp)
        · split_ifs
          · exact h.object _ _ (by simp)
          · exact h.object _ _ (hmembers _)
          · exact h.object _ _ (by simp)
      · exact h.broken _

theorem readItems_succ {fuel : Nat} (hvalue : ∀ s, P (readValue fuel s).1)
    (hitems : ∀ s, ∀ t ∈ (readItems fuel s).1, P t) (s : Octets) :
    ∀ t ∈ (readItems (fuel + 1) s).1, P t := by
  have hfirst := hvalue s
  unfold readItems
  split <;> rename_i hread <;> rw [hread] at hfirst
  · simpa using hfirst
  · split
    · simpa using hfirst
    · split_ifs
      · simpa using hfirst
      · split
        · simpa using hfirst
        · split_ifs
          · simpa using hfirst
          · exact List.forall_mem_cons.mpr ⟨hfirst, hitems _⟩
      · simpa using hfirst

theorem readMembers_succ (h : IsGrown P) {fuel : Nat} (hvalue : ∀ s, P (readValue fuel s).1)
    (hmembers : ∀ s, ∀ m ∈ (readMembers fuel s).1, P m.2) (s : Octets) :
    ∀ m ∈ (readMembers (fuel + 1) s).1, P m.2 := by
  unfold readMembers
  split
  · simp
  · dsimp only
    split
    · simpa using h.absent _
    · split_ifs
      · simpa using h.absent _
      · rename_i b r _ _
        have hfirst := hvalue r
        split <;> rename_i hread <;> rw [hread] at hfirst
        · simpa using hfirst
        · split
          · simpa using hfirst
          · split_ifs
            · simpa using hfirst
            · split
              · simpa using hfirst
              · split_ifs
                · simpa using hfirst
                · exact List.forall_mem_cons.mpr ⟨hfirst, hmembers _⟩
                · simpa using hfirst
            · simpa using hfirst

theorem reads (h : IsGrown P) (fuel : Nat) :
    (∀ s, P (readValue fuel s).1) ∧ (∀ s, ∀ t ∈ (readItems fuel s).1, P t) ∧
      ∀ s, ∀ m ∈ (readMembers fuel s).1, P m.2 := by
  induction fuel with
  | zero => exact ⟨fun _ => h.absent _, by simp [readItems], by simp [readMembers]⟩
  | succ fuel ih =>
    obtain ⟨hvalue, hitems, hmembers⟩ := ih
    exact ⟨h.readValue_succ hitems hmembers, readItems_succ hvalue hitems,
      h.readMembers_succ hvalue hmembers⟩

theorem root (h : IsGrown P) (s : Octets) : P (read s).root := by
  have hvalue := (h.reads (2 * s.length + 1)).1 s
  unfold read
  split <;> rename_i hread <;> rw [hread] at hvalue <;> exact hvalue

end IsGrown

theorem isLiteral_of_leaf {b : UInt8} {r : Octets} {found : Tree × Option Octets}
    (h : leaf? b r = some found) {n : Number} (hn : found.1.HasNumber n) :
    ∃ l : Literal, l.number = some n := by
  unfold leaf? at h
  dsimp only at h
  split at h
  · cases h
    cases hword : word ['u', 'l', 'l'] r <;> rw [hword] at hn <;> cases hn
  · cases h
    cases hword : word ['r', 'u', 'e'] r <;> rw [hword] at hn <;> cases hn
  · cases h
    cases hword : word ['a', 'l', 's', 'e'] r <;> rw [hword] at hn <;> cases hn
  · split at h <;> cases h <;> cases hn
  · split at h
    · split at h
      · cases h
        cases hn
      · split at h
        next hnumber =>
          cases h
          cases hn
          exact ⟨_, hnumber⟩
        next =>
          cases h
          cases hn
    · cases h

/-- Every number of a tree is the number of a literal. -/
theorem isGrown_literal :
    IsGrown fun t => ∀ n, t.HasNumber n → ∃ l : Literal, l.number = some n where
  leaf _ _ _ h _ hn := isLiteral_of_leaf h hn
  absent _ _ hn := by cases hn
  broken _ _ hn := by cases hn
  array items ending h n hn := by
    cases hn with
    | item ht hn => exact h _ ht n hn
  object members ending h n hn := by
    cases hn with
    | member hm hn => exact h _ hm n hn

end Reader

/-- The integers of a text fit 64 bits. -/
theorem Tree.isWhole_of_hasNumber {s : Octets} {n : Int}
    (h : (read s).root.HasNumber (.integer n)) : (Number.integer n).IsWhole := by
  obtain ⟨l, hl⟩ := Reader.isGrown_literal.root s _ h
  exact Literal.fits_of_number hl

/-! ## Values and their texts -/

namespace Value

variable {s : String} {v w : Value}

theorem ofText?_eq_some_iff : ofText? s = some v ↔
    (read (octetsOf s)).root.value maxDepth = .ok v ∧ (read (octetsOf s)).trailing = false := by
  rw [ofText?, Document.value]
  cases hroot : (read (octetsOf s)).root.value maxDepth with
  | error fault => simp [bind, Except.bind]
  | ok w =>
    cases htrailing : (read (octetsOf s)).trailing <;> simp [bind, Except.bind]

/-- A value of a text is whole if all its numbers are integers. -/
theorem isWhole_of_ofText? (h : ofText? s = some v) (hv : ∀ x, ¬ v.HasNumber (.double x)) :
    v.IsWhole := by
  refine isWhole_of_forall v fun n hn => ?_
  cases n with
  | integer n =>
    have hroot := (ofText?_eq_some_iff.mp h).1
    exact Tree.isWhole_of_hasNumber (hasNumber_of_value _ hroot hn)
  | double x => exact absurd hn (hv x)

/-- What is read from the tree of a whole value is read from its text. -/
theorem ofText?_compact (hv : v.IsWhole) (h : (Tree.ofValue v).value maxDepth = .ok w) :
    ofText? v.compact = some w := by
  rw [ofText?_eq_some_iff, read_compact hv]
  exact ⟨h, rfl⟩

end Value

end IdentityApi.Json
