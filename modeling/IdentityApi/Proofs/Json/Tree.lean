import IdentityApi.Proofs.Json.Reading
import IdentityApi.Proofs.KeyMap

/-! # Free values are read back

A free value that was read from a tree has no numbers but those of the tree, and its own tree is
read as the same value, with the same depth (`Value.value_ofValue_of_value`). Different values have
different trees (`Tree.ofValue_inj`).
-/
namespace IdentityApi.Json

namespace Tree

mutual

/-- All numbers of a tree are integers of 64 bits. -/
def IsWhole : Tree → Prop
  | number (.ok n) => n.IsWhole
  | number (.error _) => False
  | array items _ => AreWhole items
  | object members _ => HoldWhole members
  | null | bool _ | string _ | absent _ | brokenString _ _ | broken _ => True
termination_by structural t => t

def AreWhole : List Tree → Prop
  | [] => True
  | t :: rest => t.IsWhole ∧ AreWhole rest
termination_by structural l => l

def HoldWhole : List (Except Fault String × Tree) → Prop
  | [] => True
  | (_, t) :: rest => t.IsWhole ∧ HoldWhole rest
termination_by structural l => l

end

theorem areWhole_iff {items : List Tree} : AreWhole items ↔ ∀ t ∈ items, t.IsWhole := by
  induction items with
  | nil => simp [AreWhole]
  | cons t items ih =>
    rw [List.forall_mem_cons, ← ih]
    rfl

theorem holdWhole_iff {members : List (Except Fault String × Tree)} :
    HoldWhole members ↔ ∀ m ∈ members, m.2.IsWhole := by
  induction members with
  | nil => simp [HoldWhole]
  | cons m members ih =>
    rw [List.forall_mem_cons, ← ih]
    rfl

/-- The number stands somewhere in the tree. -/
inductive HasNumber (n : Number) : Tree → Prop
  | here : HasNumber n (number (.ok n))
  | item {t : Tree} {items : List Tree} {ending : ArrayEnd} :
    t ∈ items → HasNumber n t → HasNumber n (array items ending)
  | member {m : Except Fault String × Tree} {members : List (Except Fault String × Tree)}
    {ending : ObjectEnd Tree} :
    m ∈ members → HasNumber n m.2 → HasNumber n (object members ending)

theorem HasNumber.isWhole {n : Number} {t : Tree} (h : t.HasNumber n) (ht : t.IsWhole) :
    n.IsWhole := by
  induction h with
  | here => exact ht
  | item hmem _ ih => exact ih (areWhole_iff.mp ht _ hmem)
  | member hmem _ ih => exact ih (holdWhole_iff.mp ht _ hmem)

mutual

theorem ofValue_inj {v w : Value} (h : ofValue v = ofValue w) : v = w := by
  cases v with
  | array vs =>
    cases w with
    | array ws =>
      rw [ofValue, ofValue, array.injEq] at h
      rw [ofItems_inj h.1]
    | _ => simp [ofValue] at h
  | object ms =>
    cases w with
    | object ns =>
      rw [ofValue, ofValue, object.injEq] at h
      rw [ofMembers_inj h.1]
    | _ => simp [ofValue] at h
  | null | bool b | number n | string s => cases w <;> simp_all [ofValue]
termination_by structural v

theorem ofItems_inj {vs ws : List Value} (h : ofItems vs = ofItems ws) : vs = ws := by
  cases vs with
  | nil =>
    cases ws with
    | nil => rfl
    | cons w ws => cases h
  | cons v vs =>
    cases ws with
    | nil => cases h
    | cons w ws =>
      obtain ⟨hfirst, hrest⟩ := List.cons.inj h
      rw [ofValue_inj hfirst, ofItems_inj hrest]
termination_by structural vs

theorem ofMembers_inj {ms ns : List (String × Value)} (h : ofMembers ms = ofMembers ns) :
    ms = ns := by
  cases ms with
  | nil =>
    cases ns with
    | nil => rfl
    | cons n ns => cases h
  | cons m ms =>
    cases ns with
    | nil => cases h
    | cons n ns =>
      obtain ⟨k, v⟩ := m
      obtain ⟨l, w⟩ := n
      obtain ⟨hfirst, hrest⟩ := List.cons.inj h
      obtain ⟨hkey, hvalue⟩ := Prod.mk.inj hfirst
      rw [Except.ok.inj hkey, ofValue_inj hvalue, ofMembers_inj hrest]
termination_by structural ms

end

theorem ofItems_eq_map (vs : List Value) : ofItems vs = vs.map ofValue := by
  induction vs with
  | nil => rfl
  | cons v vs ih => exact congrArg (ofValue v :: ·) ih

theorem ofMembers_eq_map (ms : List (String × Value)) :
    ofMembers ms = ms.map fun m => (.ok m.1, ofValue m.2) := by
  induction ms with
  | nil => rfl
  | cons m ms ih => exact congrArg ((Except.ok m.1, ofValue m.2) :: ·) ih

end Tree

/-- What was computed after a first step. -/
theorem ok_of_bind {ε α β : Type} {x : Except ε α} {f : α → Except ε β} {b : β}
    (h : (x >>= f) = .ok b) : ∃ a, x = .ok a ∧ f a = .ok b := by
  cases x with
  | error fault => cases h
  | ok a => exact ⟨a, rfl, h⟩

theorem ok_of_map {ε α β : Type} {x : Except ε α} {f : α → β} {b : β}
    (h : x.map f = .ok b) : ∃ a, x = .ok a ∧ f a = b := by
  cases x with
  | error fault => cases h
  | ok a => exact ⟨a, rfl, Except.ok.inj h⟩

theorem bind_eq_ok_iff {ε α β : Type} {x : Except ε α} {f : α → Except ε β} {b : β} :
    (x >>= f) = .ok b ↔ ∃ a, x = .ok a ∧ f a = .ok b := by
  constructor
  · exact ok_of_bind
  · rintro ⟨a, rfl, h⟩
    exact h

theorem map_eq_ok_iff {ε α β : Type} {x : Except ε α} {f : α → β} {b : β} :
    x.map f = .ok b ↔ ∃ a, x = .ok a ∧ f a = b := by
  constructor
  · exact ok_of_map
  · rintro ⟨a, rfl, rfl⟩
    rfl

namespace Value

/-! ## Numbers of values -/

/-- The number stands somewhere in the value. -/
inductive HasNumber (n : Number) : Value → Prop
  | here : HasNumber n (number n)
  | item {v : Value} {items : List Value} :
    v ∈ items → HasNumber n v → HasNumber n (array items)
  | member {m : String × Value} {members : List (String × Value)} :
    m ∈ members → HasNumber n m.2 → HasNumber n (object members)

mutual

theorem isWhole_of_forall (v : Value) (h : ∀ n, v.HasNumber n → n.IsWhole) : v.IsWhole := by
  cases v with
  | null | bool b | string s => trivial
  | number n => exact h n .here
  | array items => exact areWhole_of_forall items fun v hv n hn => h n (.item hv hn)
  | object members => exact holdWhole_of_forall members fun m hm n hn => h n (.member hm hn)
termination_by structural v

theorem areWhole_of_forall (vs : List Value) (h : ∀ v ∈ vs, ∀ n, v.HasNumber n → n.IsWhole) :
    AreWhole vs := by
  cases vs with
  | nil => trivial
  | cons v vs =>
    obtain ⟨hv, hvs⟩ := List.forall_mem_cons.mp h
    exact ⟨isWhole_of_forall v hv, areWhole_of_forall vs hvs⟩
termination_by structural vs

theorem holdWhole_of_forall (ms : List (String × Value))
    (h : ∀ m ∈ ms, ∀ n, m.2.HasNumber n → n.IsWhole) : HoldWhole ms := by
  cases ms with
  | nil => trivial
  | cons m ms =>
    obtain ⟨hm, hms⟩ := List.forall_mem_cons.mp h
    exact ⟨isWhole_of_forall m.2 hm, holdWhole_of_forall ms hms⟩
termination_by structural ms

end

mutual

/-- A value that was read has its numbers from the tree. -/
theorem hasNumber_of_value (t : Tree) {depth : Nat} {v : Value} (h : t.value depth = .ok v)
    {n : Number} (hn : v.HasNumber n) : t.HasNumber n := by
  cases t with
  | null | bool b =>
    cases h
    cases hn
  | number m =>
    obtain ⟨m, rfl, rfl⟩ := ok_of_map h
    cases hn
    exact .here
  | string s =>
    obtain ⟨s, rfl, rfl⟩ := ok_of_map h
    cases hn
  | array items ending =>
    cases depth with
    | zero => cases h
    | succ d =>
      obtain ⟨vs, hvs, h⟩ := ok_of_bind h
      obtain ⟨⟨⟩, -, h⟩ := ok_of_bind h
      cases h
      cases hn with
      | item hmem hn =>
        obtain ⟨t, ht, hn⟩ := hasNumber_of_values items hvs hmem hn
        exact .item ht hn
  | object members ending =>
    cases depth with
    | zero => cases h
    | succ d =>
      obtain ⟨ms, hms, h⟩ := ok_of_bind h
      obtain ⟨⟨⟩, -, h⟩ := ok_of_bind h
      cases h
      cases hn with
      | member hmem hn =>
        obtain ⟨m, hm, hn⟩ :=
          hasNumber_of_memberValues members hms (KeyMap.mem_of_mem_ofPairs hmem) hn
        exact .member hm hn
  | absent fault => cases h
  | brokenString strict lax => cases h
  | broken fault => cases h
termination_by structural t

theorem hasNumber_of_values (l : List Tree) {depth : Nat} {vs : List Value}
    (h : Tree.values depth l = .ok vs) {v : Value} (hv : v ∈ vs) {n : Number}
    (hn : v.HasNumber n) : ∃ t ∈ l, t.HasNumber n := by
  cases l with
  | nil =>
    cases h
    cases hv
  | cons t rest =>
    obtain ⟨w, hw, h⟩ := ok_of_bind h
    obtain ⟨ws, hws, h⟩ := ok_of_bind h
    cases h
    rcases List.mem_cons.mp hv with rfl | hv
    · exact ⟨t, List.mem_cons_self, hasNumber_of_value t hw hn⟩
    · obtain ⟨u, hu, hn⟩ := hasNumber_of_values rest hws hv hn
      exact ⟨u, List.mem_cons_of_mem t hu, hn⟩
termination_by structural l

theorem hasNumber_of_memberValues (l : List (Except Fault String × Tree)) {depth : Nat}
    {ms : List (String × Value)} (h : Tree.memberValues depth l = .ok ms) {m : String × Value}
    (hm : m ∈ ms) {n : Number} (hn : m.2.HasNumber n) : ∃ p ∈ l, p.2.HasNumber n := by
  cases l with
  | nil =>
    cases h
    cases hm
  | cons p rest =>
    obtain ⟨key, t⟩ := p
    obtain ⟨k, -, h⟩ := ok_of_bind h
    obtain ⟨v, hv, h⟩ := ok_of_bind h
    obtain ⟨ns, hns, h⟩ := ok_of_bind h
    cases h
    rcases List.mem_cons.mp hm with rfl | hm
    · exact ⟨(key, t), List.mem_cons_self, hasNumber_of_value t hv hn⟩
    · obtain ⟨u, hu, hn⟩ := hasNumber_of_memberValues rest hns hm hn
      exact ⟨u, List.mem_cons_of_mem _ hu, hn⟩
termination_by structural l

end

/-! ## Values from their own trees -/

/-- The value is read from its own tree at this depth, and its numbers are whole. -/
def IsSettled (depth : Nat) (v : Value) : Prop :=
  (Tree.ofValue v).value depth = .ok v ∧ v.IsWhole

theorem values_ofItems {depth : Nat} {vs : List Value}
    (h : ∀ v ∈ vs, (Tree.ofValue v).value depth = .ok v) :
    Tree.values depth (Tree.ofItems vs) = .ok vs := by
  induction vs with
  | nil => rfl
  | cons v vs ih =>
    obtain ⟨hv, hvs⟩ := List.forall_mem_cons.mp h
    rw [Tree.ofItems, Tree.values, hv, ih hvs]
    rfl

theorem memberValues_ofMembers {depth : Nat} {ms : List (String × Value)}
    (h : ∀ m ∈ ms, (Tree.ofValue m.2).value depth = .ok m.2) :
    Tree.memberValues depth (Tree.ofMembers ms) = .ok ms := by
  induction ms with
  | nil => rfl
  | cons m ms ih =>
    obtain ⟨hm, hms⟩ := List.forall_mem_cons.mp h
    rw [Tree.ofMembers, Tree.memberValues, hm, ih hms]
    rfl

theorem value_ofValue_array {depth : Nat} {vs : List Value}
    (h : ∀ v ∈ vs, (Tree.ofValue v).value depth = .ok v) :
    (Tree.ofValue (array vs)).value (depth + 1) = .ok (array vs) := by
  rw [Tree.ofValue, Tree.value, values_ofItems h]
  rfl

theorem value_ofValue_object {depth : Nat} {ms : List (String × Value)}
    (h : ∀ m ∈ ms, (Tree.ofValue m.2).value depth = .ok m.2) :
    (Tree.ofValue (object ms)).value (depth + 1) = .ok (object (KeyMap.ofPairs ms).pairs) := by
  rw [Tree.ofValue, Tree.value, memberValues_ofMembers h]
  rfl

mutual

/-- A value that was read is read from its own tree as well. -/
theorem value_ofValue_of_value (t : Tree) {depth : Nat} {v : Value} (h : t.value depth = .ok v) :
    (Tree.ofValue v).value depth = .ok v := by
  cases t with
  | null | bool b =>
    cases h
    rfl
  | number n =>
    obtain ⟨n, rfl, rfl⟩ := ok_of_map h
    rfl
  | string s =>
    obtain ⟨s, rfl, rfl⟩ := ok_of_map h
    rfl
  | array items ending =>
    cases depth with
    | zero => cases h
    | succ d =>
      obtain ⟨vs, hvs, h⟩ := ok_of_bind h
      obtain ⟨⟨⟩, -, h⟩ := ok_of_bind h
      cases h
      exact value_ofValue_array (value_ofValue_of_values items hvs)
  | object members ending =>
    cases depth with
    | zero => cases h
    | succ d =>
      obtain ⟨ms, hms, h⟩ := ok_of_bind h
      obtain ⟨⟨⟩, -, h⟩ := ok_of_bind h
      cases h
      rw [value_ofValue_object fun m hm =>
        value_ofValue_of_memberValues members hms m (KeyMap.mem_of_mem_ofPairs hm),
        KeyMap.ofPairs_pairs]
  | absent fault => cases h
  | brokenString strict lax => cases h
  | broken fault => cases h
termination_by structural t

theorem value_ofValue_of_values (l : List Tree) {depth : Nat} {vs : List Value}
    (h : Tree.values depth l = .ok vs) : ∀ v ∈ vs, (Tree.ofValue v).value depth = .ok v := by
  cases l with
  | nil =>
    cases h
    simp
  | cons t rest =>
    obtain ⟨v, hv, h⟩ := ok_of_bind h
    obtain ⟨ws, hws, h⟩ := ok_of_bind h
    cases h
    exact List.forall_mem_cons.mpr
      ⟨value_ofValue_of_value t hv, value_ofValue_of_values rest hws⟩
termination_by structural l

theorem value_ofValue_of_memberValues (l : List (Except Fault String × Tree)) {depth : Nat}
    {ms : List (String × Value)} (h : Tree.memberValues depth l = .ok ms) :
    ∀ m ∈ ms, (Tree.ofValue m.2).value depth = .ok m.2 := by
  cases l with
  | nil =>
    cases h
    simp
  | cons p rest =>
    obtain ⟨key, t⟩ := p
    obtain ⟨k, -, h⟩ := ok_of_bind h
    obtain ⟨v, hv, h⟩ := ok_of_bind h
    obtain ⟨ns, hns, h⟩ := ok_of_bind h
    cases h
    exact List.forall_mem_cons.mpr
      ⟨value_ofValue_of_value t hv, value_ofValue_of_memberValues rest hns⟩
termination_by structural l

end

theorem isSettled_of_value (t : Tree) (ht : t.IsWhole) {depth : Nat} {v : Value}
    (h : t.value depth = .ok v) : v.IsSettled depth :=
  ⟨value_ofValue_of_value t h,
    isWhole_of_forall v fun _ hn => (hasNumber_of_value t h hn).isWhole ht⟩

end Value

end IdentityApi.Json
