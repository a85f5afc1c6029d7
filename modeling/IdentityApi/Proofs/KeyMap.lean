import IdentityApi.KeyMap
import Mathlib

/-! # What maps hold

What is looked up in a map are its pairs (`get?_eq_some_iff`), and a map is told by its pairs
(`eq_of_mem_iff`). A new key adds one pair (`put_perm`), and the map of some pairs holds nothing but
some of them; a map is the map of its own pairs (`ofPairs_pairs`).
-/
namespace IdentityApi.KeyMap

variable {α : Type}

theorem mem_of_mem_put {key : String} {value : α} {m : KeyMap α} {p : String × α}
    (h : p ∈ (put key value m).pairs) : p = (key, value) ∨ p ∈ m.pairs :=
  mem_of_mem_place h

theorem mem_of_mem_foldl_put (m : KeyMap α) (l : List (String × α)) :
    ∀ p ∈ (l.foldl (fun m (k, v) => put k v m) m).pairs, p ∈ m.pairs ∨ p ∈ l := by
  induction l generalizing m with
  | nil => exact fun p hp => Or.inl hp
  | cons q l ih =>
    intro p hp
    rcases ih (put q.1 q.2 m) p hp with hp | hp
    · rcases mem_of_mem_put hp with rfl | hp
      · exact Or.inr List.mem_cons_self
      · exact Or.inl hp
    · exact Or.inr (List.mem_cons_of_mem q hp)

theorem mem_of_mem_ofPairs {l : List (String × α)} {p : String × α} (h : p ∈ (ofPairs l).pairs) :
    p ∈ l :=
  (mem_of_mem_foldl_put ∅ l p h).resolve_left List.not_mem_nil

/-- A key above all others goes to the end. -/
theorem place_eq_append {l : List (String × α)} {key : String} (h : ∀ p ∈ l, p.1 < key)
    (value : α) : place key value l = l ++ [(key, value)] := by
  induction l with
  | nil => rfl
  | cons q rest ih =>
    obtain ⟨k, v⟩ := q
    have hk : k < key := h (k, v) List.mem_cons_self
    rw [place, if_neg (not_lt_of_gt hk), if_neg (ne_of_gt hk),
      ih fun p hp => h p (List.mem_cons_of_mem _ hp)]
    rfl

theorem foldl_put_eq_append {m : KeyMap α} {l : List (String × α)} (h : Ascends (m.pairs ++ l)) :
    (l.foldl (fun m (k, v) => put k v m) m).pairs = m.pairs ++ l := by
  induction l generalizing m with
  | nil => exact (List.append_nil m.pairs).symm
  | cons q l ih =>
    have hput : (put q.1 q.2 m).pairs = m.pairs ++ [q] :=
      place_eq_append (fun p hp => (List.pairwise_append.mp h).2.2 p hp q List.mem_cons_self) q.2
    have happend : m.pairs ++ [q] ++ l = m.pairs ++ q :: l := by simp
    rw [List.foldl_cons, ih (m := put q.1 q.2 m) (by rwa [hput, happend]), hput, happend]

theorem ofPairs_eq_of_ascends {l : List (String × α)} (h : Ascends l) : (ofPairs l).pairs = l :=
  foldl_put_eq_append (m := ∅) h

@[simp] theorem ofPairs_pairs (m : KeyMap α) : ofPairs m.pairs = m :=
  KeyMap.ext (ofPairs_eq_of_ascends m.ascends)

/-! ## Keys and values -/

variable {m : KeyMap α} {key : String} {value : α}

theorem lookup_cons_eq (k : String) (v : α) (l : List (String × α)) :
    ((k, v) :: l).lookup key = if key = k then some v else l.lookup key := by
  rw [List.lookup_cons]
  split_ifs with h
  · rw [beq_iff_eq.mpr h]
  · rw [beq_eq_false_iff_ne.mpr h]

@[simp] theorem get?_empty (key : String) : get? key (∅ : KeyMap α) = none := rfl

theorem lookup_eq_some_iff {l : List (String × α)} (h : Ascends l) :
    l.lookup key = some value ↔ (key, value) ∈ l := by
  induction l with
  | nil => simp
  | cons q l ih =>
    obtain ⟨k, v⟩ := q
    obtain ⟨hk, hl⟩ := List.pairwise_cons.mp h
    rw [lookup_cons_eq]
    by_cases hkey : key = k
    · subst hkey
      have hnot : (key, value) ∉ l := fun hmem => lt_irrefl key (hk _ hmem)
      simp [hnot, eq_comm]
    · rw [if_neg hkey, ih hl, List.mem_cons, Prod.mk.injEq]
      simp [hkey]

/-- What is found in a map are its pairs. -/
theorem get?_eq_some_iff : get? key m = some value ↔ (key, value) ∈ m.pairs :=
  lookup_eq_some_iff m.ascends

theorem lookup_place (k key : String) (value : α) (l : List (String × α)) :
    (place key value l).lookup k = if k = key then some value else l.lookup k := by
  induction l with
  | nil => rw [place, lookup_cons_eq]
  | cons q rest ih =>
    obtain ⟨j, v⟩ := q
    rw [place]
    by_cases hlt : key < j
    · rw [if_pos hlt, lookup_cons_eq]
    by_cases heq : key = j
    · rw [if_neg hlt, if_pos heq, ← heq, lookup_cons_eq, lookup_cons_eq]
      split_ifs <;> rfl
    · rw [if_neg hlt, if_neg heq, lookup_cons_eq, ih, lookup_cons_eq]
      by_cases hk : k = key
      · rw [if_neg fun hj => heq (hk.symm.trans hj), if_pos hk, if_pos hk]
      · rw [if_neg hk, if_neg hk]

theorem get?_put (k key : String) (value : α) (m : KeyMap α) :
    get? k (put key value m) = if k = key then some value else get? k m :=
  lookup_place k key value m.pairs

@[simp] theorem get?_put_self (key : String) (value : α) (m : KeyMap α) :
    get? key (put key value m) = some value := by
  rw [get?_put, if_pos rfl]

theorem get?_put_of_ne {k key : String} (h : k ≠ key) (value : α) (m : KeyMap α) :
    get? k (put key value m) = get? k m := by
  rw [get?_put, if_neg h]

theorem get?_filter (m : KeyMap α) (f : String × α → Bool) :
    get? key (m.filter f) = (get? key m).filter fun v => f (key, v) := by
  ext v
  rw [get?_eq_some_iff, filter, List.mem_filter, Option.filter_eq_some_iff, get?_eq_some_iff]

theorem get?_remove_eq_some_iff {k : String} :
    get? k (remove key m) = some value ↔ get? k m = some value ∧ k ≠ key := by
  rw [remove, get?_filter, Option.filter_eq_some_iff, bne_iff_ne]

@[simp] theorem get?_remove_self (key : String) (m : KeyMap α) : get? key (remove key m) = none :=
  Option.eq_none_iff_forall_ne_some.mpr fun _ h => (get?_remove_eq_some_iff.mp h).2 rfl

theorem place_perm {l : List (String × α)} (h : l.lookup key = none) (value : α) :
    (place key value l).Perm ((key, value) :: l) := by
  induction l with
  | nil => exact List.Perm.refl _
  | cons q l ih =>
    obtain ⟨k, v⟩ := q
    rw [lookup_cons_eq] at h
    split_ifs at h with hkey
    rw [place, if_neg hkey]
    split_ifs
    · exact List.Perm.refl _
    · exact ((ih h).cons (k, v)).trans (List.Perm.swap _ _ l)

theorem put_perm (h : get? key m = none) (value : α) :
    (put key value m).pairs.Perm ((key, value) :: m.pairs) :=
  place_perm h value

theorem ofPairs_append_singleton (l : List (String × α)) (p : String × α) :
    ofPairs (l ++ [p]) = put p.1 p.2 (ofPairs l) := by
  rw [ofPairs, List.foldl_append]
  rfl

theorem get?_ofPairs (l : List (String × α)) :
    get? key (ofPairs l) = ((l.filter fun p => p.1 == key).getLast?).map Prod.snd := by
  induction l using List.reverseRecOn with
  | nil => rfl
  | append_singleton l p ih =>
    rw [ofPairs_append_singleton, List.filter_append]
    by_cases hkey : p.1 = key
    · have hlast : [p].filter (fun p => p.1 == key) = [p] := by simp [hkey]
      rw [hlast, List.getLast?_append, ← hkey, get?_put_self]
      rfl
    · have hlast : [p].filter (fun p => p.1 == key) = [] := by simp [hkey]
      rw [hlast, List.append_nil, get?_put_of_ne (Ne.symm hkey), ih]

/-! ## Pairs -/

theorem nodup_keys (m : KeyMap α) : (m.pairs.map Prod.fst).Nodup :=
  List.pairwise_map.mpr (m.ascends.imp fun hlt => ne_of_lt hlt)

theorem eq_of_key_eq {p q : String × α} (hp : p ∈ m.pairs) (hq : q ∈ m.pairs)
    (hkey : p.1 = q.1) : p = q :=
  List.inj_on_of_nodup_map m.nodup_keys hp hq hkey

theorem eq_of_ascends {l k : List (String × α)} (hl : Ascends l) (hk : Ascends k)
    (h : ∀ p, p ∈ l ↔ p ∈ k) : l = k := by
  have hirrefl : Std.Irrefl fun p q : String × α => p.1 < q.1 := ⟨fun p => lt_irrefl p.1⟩
  have hantisymm : Std.Antisymm fun p q : String × α => p.1 < q.1 :=
    ⟨fun p q hpq hqp => absurd hpq (lt_asymm hqp)⟩
  exact List.Pairwise.eq_of_mem_iff hl hk h

/-- Maps with the same pairs are the same. -/
theorem eq_of_mem_iff {m n : KeyMap α} (h : ∀ p, p ∈ m.pairs ↔ p ∈ n.pairs) : m = n :=
  KeyMap.ext (eq_of_ascends m.ascends n.ascends h)

/-- A map has at most one pair of a key. -/
theorem filter_pairs (m : KeyMap α) :
    (m.pairs.filter fun p => p.1 == key) = (get? key m).toList.map fun v => (key, v) := by
  have hmem : ∀ p, p ∈ (m.pairs.filter fun p => p.1 == key) ↔
      p ∈ (get? key m).toList.map fun v => (key, v) := by
    rintro ⟨k, v⟩
    rw [List.mem_filter, beq_iff_eq]
    simp only [List.mem_map, Option.mem_toList, Prod.mk.injEq, get?_eq_some_iff]
    constructor
    · rintro ⟨hv, rfl⟩
      exact ⟨v, hv, rfl, rfl⟩
    · rintro ⟨v, hv, rfl, rfl⟩
      exact ⟨hv, rfl⟩
  refine eq_of_ascends (m.ascends.filter _) ?_ hmem
  cases get? key m <;> simp [Ascends]

/-- Of the pairs of a key the map of some pairs has the last. -/
theorem filter_ofPairs (l : List (String × α)) :
    ((ofPairs l).pairs.filter fun p => p.1 == key) =
      (l.filter fun p => p.1 == key).getLast?.toList := by
  rw [filter_pairs, get?_ofPairs]
  cases hlast : (l.filter fun p => p.1 == key).getLast? with
  | none => rfl
  | some p =>
    have hkey : p.1 = key := by simpa using (List.mem_filter.mp (List.mem_of_getLast? hlast)).2
    simp [← hkey]

/-- When no two pairs share a key, the map of the pairs has them all. -/
theorem mem_ofPairs_iff {l : List (String × α)} (h : ∀ p ∈ l, ∀ q ∈ l, p.1 = q.1 → p = q)
    {p : String × α} : p ∈ (ofPairs l).pairs ↔ p ∈ l := by
  refine ⟨mem_of_mem_ofPairs, fun hp => ?_⟩
  have hmem : p ∈ l.filter fun q => q.1 == p.1 := List.mem_filter.mpr ⟨hp, by simp⟩
  cases hlast : (l.filter fun q => q.1 == p.1).getLast? with
  | none =>
    rw [List.getLast?_eq_none_iff.mp hlast] at hmem
    cases hmem
  | some q =>
    obtain ⟨hq, hkey⟩ := List.mem_filter.mp (List.mem_of_getLast? hlast)
    have heq : q = p := h q hq p hp (by simpa using hkey)
    refine get?_eq_some_iff.mp ?_
    rw [get?_ofPairs, hlast, heq]
    rfl

/-- A map is the map of its pairs in any order. -/
theorem ofPairs_eq_of_mem_iff {l : List (String × α)} (h : ∀ p, p ∈ l ↔ p ∈ m.pairs) :
    ofPairs l = m := by
  have hdistinct : ∀ p ∈ l, ∀ q ∈ l, p.1 = q.1 → p = q := fun p hp q hq =>
    eq_of_key_eq ((h p).mp hp) ((h q).mp hq)
  exact eq_of_mem_iff fun p => (mem_ofPairs_iff hdistinct).trans (h p)

theorem ofPairs_filter {l : List (String × α)} (hl : (l.map Prod.fst).Nodup)
    (f : String × α → Bool) : ofPairs (l.filter f) = (ofPairs l).filter f := by
  have hdistinct : ∀ p ∈ l, ∀ q ∈ l, p.1 = q.1 → p = q := fun _ hp _ hq =>
    List.inj_on_of_nodup_map hl hp hq
  refine ofPairs_eq_of_mem_iff fun p => ?_
  rw [filter, List.mem_filter, List.mem_filter, mem_ofPairs_iff hdistinct]

/-! ## Maps of values that belong together -/

section Together

variable {β : Type} {R : α → β → Prop}

/-- The keys are the same, and the values belong together. -/
def Together (R : α → β → Prop) (p : String × α) (q : String × β) : Prop :=
  p.1 = q.1 ∧ R p.2 q.2

theorem forall₂_place {m : List (String × α)} {n : List (String × β)}
    (h : List.Forall₂ (Together R) m n) {a : α} {b : β} (hab : R a b) :
    List.Forall₂ (Together R) (place key a m) (place key b n) := by
  induction h with
  | nil => exact .cons ⟨rfl, hab⟩ .nil
  | @cons p q m n hpq hmn ih =>
    obtain ⟨k, v⟩ := p
    obtain ⟨k', w⟩ := q
    obtain ⟨rfl, hvw⟩ : k = k' ∧ R v w := hpq
    rw [place, place]
    split_ifs
    · exact .cons ⟨rfl, hab⟩ (.cons ⟨rfl, hvw⟩ hmn)
    · exact .cons ⟨rfl, hab⟩ hmn
    · exact .cons ⟨rfl, hvw⟩ ih

theorem forall₂_ofPairs {l : List (String × α)} {k : List (String × β)}
    (h : List.Forall₂ (Together R) l k) :
    List.Forall₂ (Together R) (ofPairs l).pairs (ofPairs k).pairs := by
  have hfold : ∀ (m : KeyMap α) (n : KeyMap β), List.Forall₂ (Together R) m.pairs n.pairs →
      List.Forall₂ (Together R) (l.foldl (fun m (k, v) => put k v m) m).pairs
        (k.foldl (fun m (k, v) => put k v m) n).pairs := by
    induction h with
    | nil => exact fun m n hmn => hmn
    | @cons p q l k hpq _ ih =>
      intro m n hmn
      obtain ⟨key, a⟩ := p
      obtain ⟨key', b⟩ := q
      obtain ⟨rfl, hab⟩ : key = key' ∧ R a b := hpq
      exact ih _ _ (forall₂_place hmn hab)
  exact hfold ∅ ∅ .nil

end Together

/-! ## Values that are changed -/

section Map

variable {β : Type} (f : α → β)

/-- The same keys, with other values. -/
def mapValues (m : KeyMap α) : KeyMap β where
  pairs := m.pairs.map fun p => (p.1, f p.2)
  ascends := List.pairwise_map.mpr (m.ascends.imp id)

theorem get?_mapValues : get? key (mapValues f m) = (get? key m).map f := by
  ext w
  rw [get?_eq_some_iff, Option.map_eq_some_iff, mapValues, List.mem_map]
  constructor
  · rintro ⟨⟨k, v⟩, hv, heq⟩
    obtain ⟨rfl, rfl⟩ := Prod.mk.inj heq
    exact ⟨v, get?_eq_some_iff.mpr hv, rfl⟩
  · rintro ⟨v, hv, rfl⟩
    exact ⟨(key, v), get?_eq_some_iff.mp hv, rfl⟩

theorem place_map (l : List (String × α)) :
    (place key value l).map (fun p => (p.1, f p.2)) =
      place key (f value) (l.map fun p => (p.1, f p.2)) := by
  induction l with
  | nil => rfl
  | cons q l ih =>
    obtain ⟨k, v⟩ := q
    rw [List.map_cons, place, place]
    split_ifs
    · rfl
    · rfl
    · rw [List.map_cons, ih]

theorem mapValues_put : mapValues f (put key value m) = put key (f value) (mapValues f m) :=
  KeyMap.ext (place_map f m.pairs)

end Map

end IdentityApi.KeyMap
