import IdentityApi.Proofs.Json.Closing
import IdentityApi.Proofs.Json.Leaves

/-! # The grammar of JSON texts

A text has a tree when it is made of leaves, brackets, braces, commas and colons as JSON texts are,
with any blanks between them. What has a tree is read as that tree to the end, and a tree that is
closed is read from nothing else (`read_eq_iff`). A text keeps its tree inside others, as long as
what stands behind it does not go on with a number (`Forms.append`).
-/
namespace IdentityApi.Json
namespace Reader

/-- A key with its quotes, and the colon behind it; `r` is left. -/
structure Names (s : Octets) (key : Except Fault String) (r : Octets) : Prop where
  colon : ∃ k u, skipBlanks s = 34 :: k ∧ stringText k = key ∧ stringEnd k = .ok u ∧
    skipBlanks u = 58 :: r

mutual

/-- A text begins with the text of a tree, and `r` is left. -/
inductive Forms : Octets → Tree → Octets → Prop
  | leaf {b : UInt8} {s r : Octets} {t : Tree} : leaf? b s = some (t, some r) → Forms (b :: s) t r
  | array {items : List Tree} {s r : Octets} :
    FormsItems s items r → Forms (91 :: s) (.array items .closed) r
  | object {members : List (Except Fault String × Tree)} {s r : Octets} :
    FormsMembers s members r → Forms (123 :: s) (.object members .closed) r

/-- Items up to and with the closing bracket. -/
inductive FormsItems : Octets → List Tree → Octets → Prop
  | none {s r : Octets} : skipBlanks s = 93 :: r → FormsItems s [] r
  | last {t : Tree} {s u r : Octets} :
    Forms (skipBlanks s) t u → skipBlanks u = 93 :: r → FormsItems s [t] r
  | more {t t' : Tree} {rest : List Tree} {s u u' r : Octets} :
    Forms (skipBlanks s) t u → skipBlanks u = 44 :: u' → FormsItems u' (t' :: rest) r →
      FormsItems s (t :: t' :: rest) r

/-- Members up to and with the closing brace. -/
inductive FormsMembers : Octets → List (Except Fault String × Tree) → Octets → Prop
  | none {s r : Octets} : skipBlanks s = 125 :: r → FormsMembers s [] r
  | last {key : Except Fault String} {t : Tree} {s s' u r : Octets} :
    Names s key s' → Forms (skipBlanks s') t u → skipBlanks u = 125 :: r →
      FormsMembers s [(key, t)] r
  | more {key : Except Fault String} {t : Tree} {m : Except Fault String × Tree}
    {rest : List (Except Fault String × Tree)} {s s' u u' r : Octets} :
    Names s key s' → Forms (skipBlanks s') t u → skipBlanks u = 44 :: u' →
      FormsMembers u' (m :: rest) r → FormsMembers s ((key, t) :: m :: rest) r

end

variable {s r : Octets} {t : Tree} {items : List Tree}
  {members : List (Except Fault String × Tree)} {key : Except Fault String}

theorem Forms.exists_cons (h : Forms s t r) : ∃ b s', s = b :: s' ∧ Starts b := by
  cases h with
  | leaf h => exact ⟨_, _, rfl, starts_of_leaf h⟩
  | array h => exact ⟨91, _, rfl, by decide, by decide, by decide⟩
  | object h => exact ⟨123, _, rfl, by decide, by decide, by decide⟩

/-- A text begins with its tree, not with blanks. -/
theorem Forms.skipBlanks_eq (h : Forms s t r) : skipBlanks s = s := by
  obtain ⟨b, s', rfl, hb⟩ := h.exists_cons
  exact skipBlanks_cons hb.notBlank s'

theorem FormsItems.exists_cons (h : FormsItems s (t :: items) r) :
    ∃ b s', skipBlanks s = b :: s' ∧ Starts b := by
  cases h with
  | last h _ => exact h.exists_cons
  | more h _ _ => exact h.exists_cons

theorem Names.exists_cons (h : Names s key r) : ∃ s', skipBlanks s = 34 :: s' := by
  obtain ⟨k, u, hs, -⟩ := h.colon
  exact ⟨k, hs⟩

theorem FormsMembers.exists_cons {m : Except Fault String × Tree}
    (h : FormsMembers s (m :: members) r) : ∃ s', skipBlanks s = 34 :: s' := by
  cases h with
  | last h _ _ => exact h.exists_cons
  | more h _ _ _ => exact h.exists_cons

/-! ## What is left is shorter -/

theorem length_lt_of_stringEnd (h : stringEnd s = .ok r) : r.length < s.length := by
  obtain ⟨p, -, rfl⟩ := exists_between_of_stringEnd h
  simp
  omega

theorem Names.length_lt (h : Names s key r) : r.length + 2 < s.length := by
  obtain ⟨k, u, hs, -, hend, hcolon⟩ := h.colon
  have := length_lt_of_skipBlanks hs
  have := length_lt_of_stringEnd hend
  have := length_lt_of_skipBlanks hcolon
  omega

mutual

theorem Forms.length_le {s r : Octets} {t : Tree} (h : Forms s t r) : r.length ≤ s.length := by
  cases t with
  | array items ending =>
    cases h with
    | leaf h => exact (leaf?_takesFront h).1.length_le
    | array h =>
      have := h.length_lt
      rw [List.length_cons]
      omega
  | object members ending =>
    cases h with
    | leaf h => exact (leaf?_takesFront h).1.length_le
    | object h =>
      have := h.length_lt
      rw [List.length_cons]
      omega
  | _ =>
    cases h with
    | leaf h => exact (leaf?_takesFront h).1.length_le
termination_by structural t

theorem FormsItems.length_lt {s r : Octets} {items : List Tree} (h : FormsItems s items r) :
    r.length < s.length := by
  cases items with
  | nil =>
    cases h with
    | none hs => exact length_lt_of_skipBlanks hs
  | cons t rest =>
    have := length_skipBlanks_le s
    cases rest with
    | nil =>
      cases h with
      | last ht hu =>
        have := ht.length_le
        have := length_lt_of_skipBlanks hu
        omega
    | cons t' rest =>
      cases h with
      | more ht hu hrest =>
        have := ht.length_le
        have := length_lt_of_skipBlanks hu
        have := hrest.length_lt
        omega
termination_by structural items

theorem FormsMembers.length_lt {s r : Octets} {members : List (Except Fault String × Tree)}
    (h : FormsMembers s members r) : r.length < s.length := by
  cases members with
  | nil =>
    cases h with
    | none hs => exact length_lt_of_skipBlanks hs
  | cons m rest =>
    obtain ⟨key, t⟩ := m
    cases rest with
    | nil =>
      cases h with
      | @last _ _ _ s' _ _ hs ht hu =>
        have := length_skipBlanks_le s'
        have := hs.length_lt
        have := ht.length_le
        have := length_lt_of_skipBlanks hu
        omega
    | cons m rest =>
      cases h with
      | @more _ _ _ _ _ s' _ _ _ hs ht hu hrest =>
        have := length_skipBlanks_le s'
        have := hs.length_lt
        have := ht.length_le
        have := length_lt_of_skipBlanks hu
        have := hrest.length_lt
        omega
termination_by structural members

end

/-! ## What has a tree is read as that tree -/

mutual

theorem Forms.readValue_eq {s r : Octets} {t : Tree} (h : Forms s t r) {fuel : Nat}
    (hfuel : 2 * s.length ≤ fuel) : readValue fuel s = (t, some r) := by
  obtain ⟨b, s', hs, hb⟩ := h.exists_cons
  obtain ⟨fuel, rfl⟩ : ∃ n, fuel = n + 1 := by
    rw [hs, List.length_cons] at hfuel
    exact ⟨fuel - 1, by omega⟩
  cases t with
  | array items ending =>
    cases h with
    | leaf h => exact readValue_leaf (starts_of_leaf h).notBlank h
    | array h =>
      rw [List.length_cons] at hfuel
      cases items with
      | nil =>
        cases h with
        | none hclose => exact readValue_noItems hclose
      | cons t rest =>
        obtain ⟨b, s', hfirst, hb⟩ := h.exists_cons
        rw [readValue_array hfirst hb, h.readItems_eq (List.cons_ne_nil _ _) (by omega)]
  | object members ending =>
    cases h with
    | leaf h => exact readValue_leaf (starts_of_leaf h).notBlank h
    | object h =>
      rw [List.length_cons] at hfuel
      cases members with
      | nil =>
        cases h with
        | none hclose => exact readValue_noMembers hclose
      | cons m rest =>
        obtain ⟨s', hfirst⟩ := h.exists_cons
        rw [readValue_object hfirst, h.readMembers_eq (List.cons_ne_nil _ _) (by omega) hfirst]
  | _ =>
    cases h with
    | leaf h => exact readValue_leaf (starts_of_leaf h).notBlank h
termination_by structural t

theorem FormsItems.readItems_eq {s r : Octets} {items : List Tree} (h : FormsItems s items r)
    (hne : items ≠ []) {fuel : Nat} (hfuel : 2 * s.length + 1 ≤ fuel) :
    readItems fuel s = (items, .closed, some r) := by
  obtain ⟨fuel, rfl⟩ : ∃ n, fuel = n + 1 := ⟨fuel - 1, by omega⟩
  have hsteps : 2 * (skipBlanks s).length ≤ fuel := by
    have := length_skipBlanks_le s
    omega
  cases items with
  | nil => exact absurd rfl hne
  | cons t rest =>
    cases rest with
    | nil =>
      cases h with
      | last ht hu =>
        have hread := ht.readValue_eq hsteps
        rw [readValue_congr (skipBlanks_skipBlanks s)] at hread
        exact readItems_last hread hu
    | cons t' rest =>
      cases h with
      | more ht hu hrest =>
        have hread := ht.readValue_eq hsteps
        rw [readValue_congr (skipBlanks_skipBlanks s)] at hread
        have hlength := length_skipBlanks_le s
        have hshorter := ht.length_le
        have hcomma := length_lt_of_skipBlanks hu
        obtain ⟨b, s', hfirst, hb⟩ := hrest.exists_cons
        rw [readItems_more hread hu hfirst hb,
          hrest.readItems_eq (List.cons_ne_nil _ _) (by omega)]
termination_by structural items

theorem FormsMembers.readMembers_eq {s r : Octets} {members : List (Except Fault String × Tree)}
    (h : FormsMembers s members r) (hne : members ≠ []) {fuel : Nat}
    (hfuel : 2 * s.length + 1 ≤ fuel) {k : Octets} (hk : skipBlanks s = 34 :: k) :
    readMembers fuel k = (members, .closed, some r) := by
  obtain ⟨fuel, rfl⟩ : ∃ n, fuel = n + 1 := ⟨fuel - 1, by omega⟩
  cases members with
  | nil => exact absurd rfl hne
  | cons m rest =>
    obtain ⟨key, t⟩ := m
    cases rest with
    | nil =>
      cases h with
      | @last _ _ _ s' _ _ hs ht hu =>
        have hlength := length_skipBlanks_le s'
        have hname := hs.length_lt
        have hread : readValue fuel (skipBlanks s') = _ := ht.readValue_eq (by omega)
        rw [readValue_congr (skipBlanks_skipBlanks _)] at hread
        obtain ⟨k', u, hk', rfl, hend, hcolon⟩ := hs.colon
        obtain rfl := (List.cons.inj (hk'.symm.trans hk)).2
        exact readMembers_last hend hcolon hread hu
    | cons m rest =>
      cases h with
      | @more _ _ _ _ _ s' _ _ _ hs ht hu hrest =>
        have hlength := length_skipBlanks_le s'
        have hname := hs.length_lt
        have hread : readValue fuel (skipBlanks s') = _ := ht.readValue_eq (by omega)
        rw [readValue_congr (skipBlanks_skipBlanks _)] at hread
        have hshorter := ht.length_le
        have hcomma := length_lt_of_skipBlanks hu
        obtain ⟨k', u, hk', rfl, hend, hcolon⟩ := hs.colon
        obtain rfl := (List.cons.inj (hk'.symm.trans hk)).2
        obtain ⟨k'', hfirst⟩ := hrest.exists_cons
        rw [readMembers_more hend hcolon hread hu hfirst,
          hrest.readMembers_eq (List.cons_ne_nil _ _) (by omega) hfirst]
termination_by structural members

end

/-- A text with nothing but blanks behind its tree is read as that tree, to the end. -/
theorem read_of_forms (h : Forms (skipBlanks s) t r) (hr : skipBlanks r = []) :
    read s = ⟨t, false⟩ := by
  have hfuel : 2 * (skipBlanks s).length ≤ 2 * s.length + 1 := by
    have := length_skipBlanks_le s
    omega
  have hread := h.readValue_eq hfuel
  rw [readValue_congr (skipBlanks_skipBlanks s)] at hread
  rw [read, hread]
  simp [hr]

/-! ## A closed tree is read from nothing else -/

/-- With this much fuel, what is read and leaves a rest has its tree. -/
structure IsSound (fuel : Nat) : Prop where
  value : ∀ {s t r}, readValue fuel s = (t, some r) → Forms (skipBlanks s) t r
  items : ∀ {s items ending r}, readItems fuel s = (items, ending, some r) →
    ending = .closed ∧ items ≠ [] ∧ FormsItems s items r
  members : ∀ {s k members ending r}, skipBlanks s = 34 :: k →
    readMembers fuel k = (members, ending, some r) →
      ending = .closed ∧ members ≠ [] ∧ FormsMembers s members r

variable {fuel : Nat}

theorem isSound_zero : IsSound 0 := ⟨nofun, nofun, nofun⟩

/-- Items are formed from behind the blanks. -/
theorem FormsItems.congr {s' : Octets} (hs : skipBlanks s = skipBlanks s')
    (h : FormsItems s items r) : FormsItems s' items r := by
  cases h with
  | none h => exact .none (hs ▸ h)
  | last ht hu => exact .last (hs ▸ ht) hu
  | more ht hu hrest => exact .more (hs ▸ ht) hu hrest

/-- Members are formed from behind the blanks. -/
theorem FormsMembers.congr {s' : Octets} (hs : skipBlanks s = skipBlanks s')
    (h : FormsMembers s members r) : FormsMembers s' members r := by
  have hnames : ∀ {key : Except Fault String} {r : Octets}, Names s key r → Names s' key r :=
    fun hn => ⟨hs ▸ hn.colon⟩
  cases h with
  | none h => exact .none (hs ▸ h)
  | last hn ht hu => exact .last (hnames hn) ht hu
  | more hn ht hu hrest => exact .more (hnames hn) ht hu hrest

theorem FormsItems.cons {u u' : Octets} (ht : Forms (skipBlanks s) t u)
    (hu : skipBlanks u = 44 :: u') (hne : items ≠ []) (h : FormsItems u' items r) :
    FormsItems s (t :: items) r := by
  obtain ⟨t', rest, rfl⟩ := List.exists_cons_of_ne_nil hne
  exact .more ht hu h

theorem FormsMembers.cons {s' u u' : Octets} (hs : Names s key s')
    (ht : Forms (skipBlanks s') t u) (hu : skipBlanks u = 44 :: u') (hne : members ≠ [])
    (h : FormsMembers u' members r) : FormsMembers s ((key, t) :: members) r := by
  obtain ⟨m, rest, rfl⟩ := List.exists_cons_of_ne_nil hne
  exact .more hs ht hu h

theorem FormsItems.of_skipBlanks {b : UInt8} {s' : Octets} (hs : skipBlanks s = b :: s')
    (h : FormsItems (b :: s') items r) : FormsItems s items r := by
  apply h.congr
  rw [← hs, skipBlanks_skipBlanks]

theorem IsSound.value_succ (h : IsSound fuel) (hread : readValue (fuel + 1) s = (t, some r)) :
    Forms (skipBlanks s) t r := by
  unfold readValue at hread
  split at hread
  · cases hread
  next b s' hs =>
    rw [hs]
    split at hread
    next hleaf =>
      rw [hread] at hleaf
      exact .leaf hleaf
    next =>
      split_ifs at hread with hbracket hbrace
      · obtain rfl := eq_of_char (d := 91) hbracket
        split at hread
        · cases hread
        next d s'' hs' =>
          split_ifs at hread with hclose
          · cases hread
            obtain rfl := eq_of_char (d := 93) hclose
            exact .array (.none hs')
          · obtain ⟨items, ending, rest, hitems⟩ :
              ∃ items ending rest, readItems fuel (d :: s'') = (items, ending, rest) :=
                ⟨_, _, _, rfl⟩
            rw [hitems] at hread
            cases hread
            obtain ⟨rfl, hne, hforms⟩ := h.items hitems
            exact .array (hforms.of_skipBlanks hs')
      · obtain rfl := eq_of_char (d := 123) hbrace
        split at hread
        · cases hread
        next d s'' hs' =>
          split_ifs at hread with hclose hquote
          · cases hread
            obtain rfl := eq_of_char (d := 125) hclose
            exact .object (.none hs')
          · obtain rfl := eq_of_char (d := 34) hquote
            obtain ⟨members, ending, rest, hmembers⟩ :
              ∃ members ending rest, readMembers fuel s'' = (members, ending, rest) :=
                ⟨_, _, _, rfl⟩
            rw [hmembers] at hread
            cases hread
            obtain ⟨rfl, hne, hforms⟩ := h.members hs' hmembers
            exact .object hforms
          · cases hread
      · cases hread

theorem IsSound.items_succ (h : IsSound fuel) {ending : ArrayEnd}
    (hread : readItems (fuel + 1) s = (items, ending, some r)) :
    ending = .closed ∧ items ≠ [] ∧ FormsItems s items r := by
  unfold readItems at hread
  split at hread
  · cases hread
  next t u ht =>
    have ht := h.value ht
    split at hread
    · cases hread
    next b u' hu =>
      split_ifs at hread with hclose hcomma
      · cases hread
        obtain rfl := eq_of_char (d := 93) hclose
        exact ⟨rfl, List.cons_ne_nil _ _, .last ht hu⟩
      · obtain rfl := eq_of_char (d := 44) hcomma
        split at hread
        · cases hread
        next d u'' hu' =>
          split_ifs at hread with hclose
          · cases hread
          · obtain ⟨rest, ending, r', hrest⟩ :
              ∃ rest ending r', readItems fuel (d :: u'') = (rest, ending, r') := ⟨_, _, _, rfl⟩
            rw [hrest] at hread
            cases hread
            obtain ⟨rfl, hne, hforms⟩ := h.items hrest
            exact ⟨rfl, List.cons_ne_nil _ _, .cons ht hu hne (hforms.of_skipBlanks hu')⟩
      · cases hread

theorem IsSound.members_succ (h : IsSound fuel) {k : Octets} {ending : ObjectEnd Tree}
    (hk : skipBlanks s = 34 :: k)
    (hread : readMembers (fuel + 1) k = (members, ending, some r)) :
    ending = .closed ∧ members ≠ [] ∧ FormsMembers s members r := by
  unfold readMembers at hread
  split at hread
  · cases hread
  next u hend =>
    dsimp only at hread
    split at hread
    · cases hread
    next b s' hu =>
      split_ifs at hread with hcolon
      · cases hread
      · obtain rfl := eq_of_char (d := 58) (not_not.mp hcolon)
        have hname : Names s (stringText k) s' := ⟨k, u, hk, rfl, hend, hu⟩
        split at hread
        · cases hread
        next t u' ht =>
          have ht := h.value ht
          split at hread
          · cases hread
          next b u'' hu' =>
            split_ifs at hread with hclose hcomma
            · cases hread
              obtain rfl := eq_of_char (d := 125) hclose
              exact ⟨rfl, List.cons_ne_nil _ _, .last hname ht hu'⟩
            · obtain rfl := eq_of_char (d := 44) hcomma
              split at hread
              · cases hread
              next d k' hk' =>
                split_ifs at hread with hclose hquote
                · cases hread
                · obtain rfl := eq_of_char (d := 34) hquote
                  obtain ⟨rest, ending, r', hrest⟩ :
                    ∃ rest ending r', readMembers fuel k' = (rest, ending, r') := ⟨_, _, _, rfl⟩
                  rw [hrest] at hread
                  cases hread
                  obtain ⟨rfl, hne, hforms⟩ := h.members hk' hrest
                  exact ⟨rfl, List.cons_ne_nil _ _, .cons hname ht hu' hne hforms⟩
                · cases hread
            · cases hread

theorem isSound (fuel : Nat) : IsSound fuel := by
  induction fuel with
  | zero => exact isSound_zero
  | succ fuel ih => exact ⟨ih.value_succ, ih.items_succ, ih.members_succ⟩

/-! ## Texts inside others -/

theorem skipBlanks_append_of_cons {b : UInt8} {s' : Octets} (h : skipBlanks s = b :: s')
    (u : Octets) : skipBlanks (s ++ u) = b :: (s' ++ u) := by
  rw [skipBlanks, List.dropWhile_append, ← skipBlanks, h]
  rfl

theorem Names.append (h : Names s key r) (u : Octets) : Names (s ++ u) key (r ++ u) := by
  obtain ⟨k, v, hs, rfl, hend, hcolon⟩ := h.colon
  obtain ⟨p, hp, rfl⟩ := exists_between_of_stringEnd hend
  refine ⟨_, v ++ u, skipBlanks_append_of_cons hs u, ?_, ?_, skipBlanks_append_of_cons hcolon u⟩
  · rw [List.append_assoc]
    exact stringText_between hp _ _
  · rw [List.append_assoc]
    exact stringEnd_between hp _

theorem Forms.skipBlanks_append (h : Forms (skipBlanks s) t r) (u : Octets) :
    skipBlanks (s ++ u) = skipBlanks s ++ u := by
  obtain ⟨b, s', hs, -⟩ := h.exists_cons
  rw [hs, skipBlanks_append_of_cons hs]
  rfl

mutual

/-- What stands behind a text does not matter, as long as it does not go on with a number. -/
theorem Forms.append {s r u : Octets} {t : Tree} (h : Forms s t r) (hu : EndsNumber u) :
    Forms (s ++ u) t (r ++ u) := by
  cases t with
  | array items ending =>
    cases h with
    | leaf h => exact .leaf ((leaf?_takesFront h).2 u hu)
    | array h => exact .array (h.append hu)
  | object members ending =>
    cases h with
    | leaf h => exact .leaf ((leaf?_takesFront h).2 u hu)
    | object h => exact .object (h.append hu)
  | _ =>
    cases h with
    | leaf h => exact .leaf ((leaf?_takesFront h).2 u hu)
termination_by structural t

theorem FormsItems.append {s r u : Octets} {items : List Tree} (h : FormsItems s items r)
    (hu : EndsNumber u) : FormsItems (s ++ u) items (r ++ u) := by
  cases items with
  | nil =>
    cases h with
    | none hs => exact .none (skipBlanks_append_of_cons hs u)
  | cons t rest =>
    cases rest with
    | nil =>
      cases h with
      | last ht hv =>
        refine .last ?_ (skipBlanks_append_of_cons hv u)
        rw [ht.skipBlanks_append]
        exact ht.append hu
    | cons t' rest =>
      cases h with
      | more ht hv hrest =>
        refine .more ?_ (skipBlanks_append_of_cons hv u) (hrest.append hu)
        rw [ht.skipBlanks_append]
        exact ht.append hu
termination_by structural items

theorem FormsMembers.append {s r u : Octets} {members : List (Except Fault String × Tree)}
    (h : FormsMembers s members r) (hu : EndsNumber u) :
    FormsMembers (s ++ u) members (r ++ u) := by
  cases members with
  | nil =>
    cases h with
    | none hs => exact .none (skipBlanks_append_of_cons hs u)
  | cons m rest =>
    obtain ⟨key, t⟩ := m
    cases rest with
    | nil =>
      cases h with
      | last hs ht hv =>
        refine .last (hs.append u) ?_ (skipBlanks_append_of_cons hv u)
        rw [ht.skipBlanks_append]
        exact ht.append hu
    | cons m rest =>
      cases h with
      | more hs ht hv hrest =>
        refine .more (hs.append u) ?_ (skipBlanks_append_of_cons hv u) (hrest.append hu)
        rw [ht.skipBlanks_append]
        exact ht.append hu
termination_by structural members

end

end Reader

/-! ## Texts -/

/-- The octets are a text with a tree, blanks around it allowed. -/
def IsText (s : Octets) (t : Tree) : Prop :=
  ∃ r, Reader.Forms (Reader.skipBlanks s) t r ∧ Reader.skipBlanks r = []

variable {s : Octets} {t : Tree}

theorem IsText.read_eq (h : IsText s t) : read s = ⟨t, false⟩ := by
  obtain ⟨r, hforms, hr⟩ := h
  exact Reader.read_of_forms hforms hr

theorem Reader.Forms.isClosed {r : Octets} (h : Forms s t r) : t.IsClosed := by
  have htold := (tells (2 * s.length)).value s
  rw [h.readValue_eq (Nat.le_refl _)] at htold
  exact htold

theorem IsText.isClosed (h : IsText s t) : t.IsClosed := by
  obtain ⟨r, hforms, -⟩ := h
  exact hforms.isClosed

/-- The texts with a tree are those that are read as a closed tree, to the end. -/
theorem isText_iff : IsText s t ↔ read s = ⟨t, false⟩ ∧ t.IsClosed := by
  refine ⟨fun h => ⟨h.read_eq, h.isClosed⟩, fun ⟨hread, hclosed⟩ => ?_⟩
  have htold := (Reader.tells (2 * s.length + 1)).value s
  unfold read at hread
  split at hread
  next t' hvalue =>
    rw [hvalue] at htold
    cases hread
    exact absurd (Tree.skip_of_isClosed _ hclosed) htold
  next t' r hvalue =>
    cases hblank : Reader.skipBlanks r with
    | nil =>
      rw [hblank] at hread
      cases hread
      exact ⟨r, (Reader.isSound _).value hvalue, hblank⟩
    | cons b r' =>
      rw [hblank] at hread
      cases hread

/-- A text has one tree. -/
theorem IsText.tree_eq {t' : Tree} (h : IsText s t) (h' : IsText s t') : t = t' := by
  cases h.read_eq.symm.trans h'.read_eq
  rfl

/-- A text is not blank. -/
theorem IsText.exists_starts (h : IsText s t) : ∃ b ∈ s, Reader.Starts b := by
  obtain ⟨r, hforms, -⟩ := h
  obtain ⟨b, s', hs, hb⟩ := hforms.exists_cons
  refine ⟨b, ?_, hb⟩
  apply (List.dropWhile_suffix Reader.isBlank).subset
  rw [← Reader.skipBlanks, hs]
  exact List.mem_cons_self

end IdentityApi.Json
