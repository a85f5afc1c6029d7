import IdentityApi.Proofs.Codec.Filling
import IdentityApi.Proofs.Json.Closing
import IdentityApi.Proofs.Json.Parts
import Mathlib.Data.List.Perm.Basic

/-! # Trees with their members in another order

Two trees are shuffled of each other when they differ only in the order of the members of their
objects, at any depth. In an unambiguous tree, where the names of each object are distinct, that
order does not matter: a shuffled tree has the same free value (`Shuffled.value_eq_ok`).
-/
namespace IdentityApi

/-- The order of pairs with distinct keys does not matter. -/
theorem KeyMap.ofPairs_eq_of_perm {α : Type} {l l' : List (String × α)}
    (hnodup : (l.map Prod.fst).Nodup) (h : l'.Perm l) : ofPairs l' = ofPairs l := by
  have hinj : ∀ p ∈ l, ∀ q ∈ l, p.1 = q.1 → p = q :=
    fun p hp q hq => List.inj_on_of_nodup_map hnodup hp hq
  have hinj' : ∀ p ∈ l', ∀ q ∈ l', p.1 = q.1 → p = q :=
    fun p hp q hq => hinj p (h.subset hp) q (h.subset hq)
  refine eq_of_mem_iff fun p => ?_
  rw [mem_ofPairs_iff hinj', mem_ofPairs_iff hinj, h.mem_iff]

namespace Json.Tree

/-! ## Shuffling -/

/-- Members with one key, whose values are related. -/
inductive Keyed (R : Tree → Tree → Prop) :
    Except Fault String × Tree → Except Fault String × Tree → Prop
  | intro {key : Except Fault String} {t t' : Tree} : R t t' → Keyed R (key, t) (key, t')

/-- The members of objects may stand in another order, at any depth. -/
inductive Shuffled : Tree → Tree → Prop
  | refl (t : Tree) : Shuffled t t
  | inArray {items items' : List Tree} {ending : ArrayEnd} :
    List.Forall₂ Shuffled items items' → Shuffled (array items ending) (array items' ending)
  | inObject {members middle members' : List (Except Fault String × Tree)}
    {ending : ObjectEnd Tree} :
    List.Forall₂ (Keyed Shuffled) members middle → middle.Perm members' →
      Shuffled (object members ending) (object members' ending)

variable {t t' : Tree} {items items' : List Tree} {ending : ArrayEnd}
  {members middle members' : List (Except Fault String × Tree)} {closing : ObjectEnd Tree}

namespace Shuffled

theorem eq_of_isLeaf (h : Shuffled t t') (ht : t.IsLeaf) : t' = t := by
  cases h with
  | refl => rfl
  | inArray => exact ht.elim
  | inObject => exact ht.elim

theorem of_array (h : Shuffled (.array items ending) t') :
    ∃ items', t' = .array items' ending ∧ List.Forall₂ Shuffled items items' := by
  cases h with
  | refl => exact ⟨items, rfl, List.forall₂_same.mpr fun t _ => .refl t⟩
  | inArray h => exact ⟨_, rfl, h⟩

theorem of_object (h : Shuffled (.object members closing) t') :
    ∃ middle members', t' = .object members' closing ∧
      List.Forall₂ (Keyed Shuffled) members middle ∧ middle.Perm members' := by
  cases h with
  | refl =>
    exact ⟨members, members, rfl, List.forall₂_same.mpr fun m _ => .intro (.refl m.2), .refl _⟩
  | inObject h hperm => exact ⟨_, _, rfl, h, hperm⟩

theorem forall₂_items_symm (h : List.Forall₂ Shuffled items items')
    (ih : ∀ t ∈ items, ∀ t', Shuffled t t' → Shuffled t' t) :
    List.Forall₂ Shuffled items' items := by
  induction h with
  | nil => exact .nil
  | cons ht _ ihitems =>
    obtain ⟨iht, ihrest⟩ := List.forall_mem_cons.mp ih
    exact .cons (iht _ ht) (ihitems ihrest)

theorem forall₂_members_symm (h : List.Forall₂ (Keyed Shuffled) members middle)
    (ih : ∀ m ∈ members, ∀ t', Shuffled m.2 t' → Shuffled t' m.2) :
    List.Forall₂ (Keyed Shuffled) middle members := by
  induction h with
  | nil => exact .nil
  | cons hm _ ihmembers =>
    obtain ⟨ihm, ihrest⟩ := List.forall_mem_cons.mp ih
    cases hm with
    | intro ht => exact .cons (.intro (ihm _ ht)) (ihmembers ihrest)

theorem symm (h : Shuffled t t') : Shuffled t' t := by
  induction t using byParts generalizing t' with
  | leaf t ht =>
    rw [h.eq_of_isLeaf ht]
    exact .refl t
  | array items ending ih =>
    obtain ⟨items', rfl, hitems⟩ := h.of_array
    exact .inArray (forall₂_items_symm hitems fun t ht _ => ih t ht)
  | object members closing ih =>
    obtain ⟨middle, members', rfl, hmembers, hperm⟩ := h.of_object
    have hback := forall₂_members_symm hmembers fun m hm _ => ih m hm
    obtain ⟨middle', hmiddle', hperm'⟩ := List.perm_comp_forall₂ hperm.symm hback
    exact .inObject hmiddle' hperm'

end Shuffled

/-! ## Unambiguous trees -/

mutual

/-- The tree is closed throughout, and no object in it has a name twice. -/
def IsUnambiguous : Tree → Prop
  | null | bool _ | number _ | string _ => True
  | array items ending => ending = .closed ∧ AreUnambiguous items
  | object members ending =>
    ending = .closed ∧ (names members).Nodup ∧ HoldUnambiguous members
  | absent _ | brokenString _ _ | broken _ => False
termination_by structural t => t

def AreUnambiguous : List Tree → Prop
  | [] => True
  | t :: rest => t.IsUnambiguous ∧ AreUnambiguous rest
termination_by structural l => l

def HoldUnambiguous : List (Except Fault String × Tree) → Prop
  | [] => True
  | (_, t) :: rest => t.IsUnambiguous ∧ HoldUnambiguous rest
termination_by structural l => l

end

theorem areUnambiguous_iff : AreUnambiguous items ↔ ∀ t ∈ items, t.IsUnambiguous := by
  induction items with
  | nil => simp [AreUnambiguous]
  | cons t items ih => rw [AreUnambiguous, ih, List.forall_mem_cons]

theorem holdUnambiguous_iff : HoldUnambiguous members ↔ ∀ m ∈ members, m.2.IsUnambiguous := by
  induction members with
  | nil => simp [HoldUnambiguous]
  | cons m members ih => rw [HoldUnambiguous, ih, List.forall_mem_cons]

theorem isUnambiguous_array_iff : (array items ending).IsUnambiguous ↔
    ending = .closed ∧ ∀ t ∈ items, t.IsUnambiguous := by
  rw [IsUnambiguous, areUnambiguous_iff]

theorem isUnambiguous_object_iff : (object members closing).IsUnambiguous ↔
    closing = .closed ∧ (names members).Nodup ∧ ∀ m ∈ members, m.2.IsUnambiguous := by
  rw [IsUnambiguous, holdUnambiguous_iff]

theorem names_eq_of_keyed {R : Tree → Tree → Prop}
    (h : List.Forall₂ (Keyed R) members middle) : names members = names middle := by
  induction h with
  | nil => rfl
  | cons hm _ ih =>
    cases hm with
    | @intro key t t' ht =>
      cases key with
      | error fault => exact ih
      | ok k => exact congrArg (k :: ·) ih

theorem exists_of_mem_forall₂ {α β : Type} {R : α → β → Prop} {as : List α} {bs : List β}
    (h : List.Forall₂ R as bs) {b : β} (hb : b ∈ bs) : ∃ a ∈ as, R a b := by
  induction h with
  | nil => cases hb
  | cons hab _ ih =>
    rcases List.mem_cons.mp hb with rfl | hb
    · exact ⟨_, List.mem_cons_self, hab⟩
    · obtain ⟨a, ha, hab⟩ := ih hb
      exact ⟨a, List.mem_cons_of_mem _ ha, hab⟩

theorem Shuffled.isUnambiguous (h : Shuffled t t') (ht : t.IsUnambiguous) :
    t'.IsUnambiguous := by
  induction t using byParts generalizing t' with
  | leaf t hleaf =>
    rw [h.eq_of_isLeaf hleaf]
    exact ht
  | array items ending ih =>
    obtain ⟨items', rfl, hitems⟩ := h.of_array
    obtain ⟨hending, hparts⟩ := isUnambiguous_array_iff.mp ht
    refine isUnambiguous_array_iff.mpr ⟨hending, fun u' hu' => ?_⟩
    obtain ⟨u, hu, huu'⟩ := exists_of_mem_forall₂ hitems hu'
    exact ih u hu huu' (hparts u hu)
  | object members closing ih =>
    obtain ⟨middle, members', rfl, hmembers, hperm⟩ := h.of_object
    obtain ⟨hclosing, hnodup, hparts⟩ := isUnambiguous_object_iff.mp ht
    refine isUnambiguous_object_iff.mpr ⟨hclosing, ?_, fun n hn => ?_⟩
    · rw [names_eq_of_keyed hmembers] at hnodup
      exact (hperm.filterMap _).nodup_iff.mp hnodup
    · obtain ⟨m, hm, hmn⟩ := exists_of_mem_forall₂ hmembers (hperm.mem_iff.mpr hn)
      cases hmn with
      | intro ht => exact ih _ hm ht (hparts _ hm)

theorem areClosed_iff : AreClosed items ↔ ∀ t ∈ items, t.IsClosed := by
  induction items with
  | nil => simp [AreClosed]
  | cons t items ih => rw [AreClosed, ih, List.forall_mem_cons]

theorem holdClosed_iff : HoldClosed members ↔ ∀ m ∈ members, m.2.IsClosed := by
  induction members with
  | nil => simp [HoldClosed]
  | cons m members ih => rw [HoldClosed, ih, List.forall_mem_cons]

theorem IsUnambiguous.isClosed (h : t.IsUnambiguous) : t.IsClosed := by
  induction t using byParts with
  | leaf t ht =>
    cases t with
    | array items ending => exact ht.elim
    | object members ending => exact ht.elim
    | absent | brokenString | broken => exact h
    | _ => trivial
  | array items ending ih =>
    obtain ⟨hending, hitems⟩ := isUnambiguous_array_iff.mp h
    exact ⟨hending, areClosed_iff.mpr fun t ht => ih t ht (hitems t ht)⟩
  | object members ending ih =>
    obtain ⟨hending, -, hmembers⟩ := isUnambiguous_object_iff.mp h
    exact ⟨hending, holdClosed_iff.mpr fun m hm => ih m hm (hmembers m hm)⟩

/-! ## Values of shuffled parts -/

/-- What is said of items is said of shuffled items. -/
theorem forall₂_of_shuffled {α : Type} {R : Tree → α → Prop} {as : List α}
    (hR : ∀ t ∈ items, ∀ {t' a}, t.Shuffled t' → R t a → R t' a)
    (h : List.Forall₂ Shuffled items items') (has : List.Forall₂ R items as) :
    List.Forall₂ R items' as := by
  induction h generalizing as with
  | nil => exact has
  | cons ht _ ih =>
    obtain ⟨hRt, hRrest⟩ := List.forall_mem_cons.mp hR
    cases has with
    | cons ha has => exact .cons (hRt ht ha) (ih hRrest has)

/-- Shuffled members say the same pairs, in another order. -/
theorem exists_says_of_shuffled {α : Type} {R : Tree → α → Prop} {ps : List (String × α)}
    (hR : ∀ m ∈ members, ∀ {t' a}, m.2.Shuffled t' → R m.2 a → R t' a)
    (h : List.Forall₂ (Keyed Shuffled) members middle) (hperm : middle.Perm members')
    (hps : List.Forall₂ (Says R) members ps) :
    ∃ ps', List.Forall₂ (Says R) members' ps' ∧ ps'.Perm ps := by
  have hmiddle : List.Forall₂ (Says R) middle ps := by
    clear hperm
    induction h generalizing ps with
    | nil => exact hps
    | cons hm _ ih =>
      obtain ⟨hRm, hRrest⟩ := List.forall_mem_cons.mp hR
      cases hm with
      | intro ht =>
        cases hps with
        | cons hp hps => exact .cons ⟨hp.1, hRm ht hp.2⟩ (ih hRrest hps)
  exact List.perm_comp_forall₂ hperm.symm hmiddle

/-- Shuffled members of distinct names make the same map. -/
theorem exists_says_ofPairs_eq {α : Type} {R : Tree → α → Prop} {ps : List (String × α)}
    (hR : ∀ m ∈ members, ∀ {t' a}, m.2.Shuffled t' → R m.2 a → R t' a)
    (hnodup : (names members).Nodup)
    (h : List.Forall₂ (Keyed Shuffled) members middle) (hperm : middle.Perm members')
    (hps : List.Forall₂ (Says R) members ps) :
    ∃ ps', List.Forall₂ (Says R) members' ps' ∧ KeyMap.ofPairs ps' = KeyMap.ofPairs ps := by
  obtain ⟨ps', hps', hperm'⟩ := exists_says_of_shuffled hR h hperm hps
  rw [names_eq_map_fst hps] at hnodup
  exact ⟨ps', hps', KeyMap.ofPairs_eq_of_perm hnodup hperm'⟩

/-- The order of members does not matter to a free value. -/
theorem Shuffled.value_eq_ok {d : Nat} {v : Value} (h : Shuffled t t') (ht : t.IsUnambiguous)
    (hv : t.value d = .ok v) : t'.value d = .ok v := by
  induction t using byParts generalizing d t' v with
  | leaf t hleaf =>
    rw [h.eq_of_isLeaf hleaf]
    exact hv
  | array items ending ih =>
    obtain ⟨items', rfl, hitems⟩ := h.of_array
    obtain ⟨rfl, hparts⟩ := isUnambiguous_array_iff.mp ht
    cases d with
    | zero => cases hv
    | succ d =>
      obtain ⟨vs, hvs, rfl⟩ := value_array_eq_ok_iff.mp hv
      refine value_array_eq_ok_iff.mpr ⟨vs, ?_, rfl⟩
      exact forall₂_of_shuffled (fun t ht => fun h => ih t ht h (hparts t ht)) hitems hvs
  | object members closing ih =>
    obtain ⟨middle, members', rfl, hmembers, hperm⟩ := h.of_object
    obtain ⟨rfl, hnodup, hparts⟩ := isUnambiguous_object_iff.mp ht
    cases d with
    | zero => cases hv
    | succ d =>
      obtain ⟨ms, hms, rfl⟩ := value_object_eq_ok_iff.mp hv
      obtain ⟨ms', hms', hsame⟩ := exists_says_ofPairs_eq
        (fun m hm => fun h => ih m hm h (hparts m hm)) hnodup hmembers hperm hms
      exact value_object_eq_ok_iff.mpr ⟨ms', hms', congrArg (Value.object ·.pairs) hsame.symm⟩

end Json.Tree

end IdentityApi
