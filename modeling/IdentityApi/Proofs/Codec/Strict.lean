import IdentityApi.Proofs.Codec.Record

/-! # Decoding is stricter than passing over

A codec is strict when it decodes no tree that could not be passed over. The simple codecs are
strict, and so are options, lists, maps, choices and records of strict ones.
-/
namespace IdentityApi

open Json (Tree ok_of_bind ok_of_map)

/-! ## Free values -/

namespace Json.Tree

theorem lax_of_strict {ending : ArrayEnd} (h : ending.strict = .ok ()) : ending.lax = .ok () := by
  cases ending <;> first | rfl | cases h

theorem lax_of_full {ending : ArrayEnd} (h : ending.full = .ok ()) : ending.lax = .ok () := by
  cases ending <;> first | rfl | cases h

theorem lax_of_strict_object {ending : ObjectEnd Tree} (h : ending.strict = .ok ()) :
    ending.lax = .ok () := by
  cases ending <;> first | rfl | cases h

theorem skip_array {items : List Tree} {ending : ArrayEnd} (h : skipItems items = .ok ())
    (hending : ending.lax = .ok ()) : (array items ending).skip = .ok () := by
  rw [skip, h]
  exact hending

theorem skip_object {members : List (Except Fault String × Tree)} {ending : ObjectEnd Tree}
    (h : skipMembers members = .ok ()) (hending : ending.lax = .ok ()) :
    (object members ending).skip = .ok () := by
  rw [skip, h]
  exact hending

theorem skipItems_cons {t : Tree} {items : List Tree} (ht : t.skip = .ok ())
    (h : skipItems items = .ok ()) : skipItems (t :: items) = .ok () := by
  rw [skipItems, ht]
  exact h

theorem skipMembers_cons {key : Except Fault String} {t : Tree}
    {members : List (Except Fault String × Tree)} (ht : t.skip = .ok ())
    (h : skipMembers members = .ok ()) : skipMembers ((key, t) :: members) = .ok () := by
  rw [skipMembers, ht]
  exact h

mutual

theorem skip_of_value (t : Tree) {depth : Nat} {v : Value} (h : t.value depth = .ok v) :
    t.skip = .ok () := by
  cases t with
  | null | bool b | number n | string s => rfl
  | array items ending =>
    cases depth with
    | zero => cases h
    | succ d =>
      obtain ⟨vs, hvs, h⟩ := ok_of_bind h
      obtain ⟨⟨⟩, hending, -⟩ := ok_of_bind h
      exact skip_array (skip_of_values items hvs) (lax_of_strict hending)
  | object members ending =>
    cases depth with
    | zero => cases h
    | succ d =>
      obtain ⟨ms, hms, h⟩ := ok_of_bind h
      obtain ⟨⟨⟩, hending, -⟩ := ok_of_bind h
      exact skip_object (skip_of_memberValues members hms) (lax_of_strict_object hending)
  | absent fault => cases h
  | brokenString strict lax => cases h
  | broken fault => cases h
termination_by structural t

theorem skip_of_values (l : List Tree) {depth : Nat} {vs : List Value}
    (h : values depth l = .ok vs) : skipItems l = .ok () := by
  cases l with
  | nil => rfl
  | cons t rest =>
    obtain ⟨v, hv, h⟩ := ok_of_bind h
    obtain ⟨ws, hws, -⟩ := ok_of_bind h
    exact skipItems_cons (skip_of_value t hv) (skip_of_values rest hws)
termination_by structural l

theorem skip_of_memberValues (l : List (Except Fault String × Tree)) {depth : Nat}
    {ms : List (String × Value)} (h : memberValues depth l = .ok ms) : skipMembers l = .ok () := by
  cases l with
  | nil => rfl
  | cons p rest =>
    obtain ⟨key, t⟩ := p
    obtain ⟨k, -, h⟩ := ok_of_bind h
    obtain ⟨v, hv, h⟩ := ok_of_bind h
    obtain ⟨ns, hns, -⟩ := ok_of_bind h
    exact skipMembers_cons (skip_of_value t hv) (skip_of_memberValues rest hns)
termination_by structural l

end

end Json.Tree

namespace Codec

open Json.Tree

variable {α β : Type} {c : Codec α}

/-- What is decoded can also be passed over. -/
def IsStrict (c : Codec α) : Prop :=
  ∀ ⦃d : Nat⦄ ⦃t : Tree⦄ ⦃a : α⦄, c.decode d t = .ok a → t.skip = .ok ()

/-! ## Simple codecs -/

theorem skip_of_ofText {expected : String} {parse : String → Except Fault α} {t : Tree} {a : α}
    (h : ofText expected parse t = .ok a) : t.skip = .ok () := by
  cases t with
  | string s => rfl
  | _ => cases h

theorem skip_of_ofInteger {expected : String} {low high : Int} {make : Int → α} {t : Tree} {a : α}
    (h : ofInteger expected low high make t = .ok a) : t.skip = .ok () := by
  cases t with
  | number n => rfl
  | _ => cases h

@[simp] theorem isStrict_string : string.IsStrict := fun _ _ _ => skip_of_ofText

@[simp] theorem isStrict_uuid : uuid.IsStrict := fun _ _ _ => skip_of_ofText

@[simp] theorem isStrict_timestamp : timestamp.IsStrict := fun _ _ _ => skip_of_ofText

@[simp] theorem isStrict_int64 : int64.IsStrict := fun _ _ _ => skip_of_ofInteger

@[simp] theorem isStrict_uint64 : uint64.IsStrict := fun _ _ _ => skip_of_ofInteger

@[simp] theorem isStrict_bool : bool.IsStrict := by
  intro d t a h
  cases t with
  | bool b => rfl
  | _ => cases h

@[simp] theorem isStrict_unit : unit.IsStrict := by
  intro d t a h
  cases t with
  | null => rfl
  | _ => cases h

@[simp] theorem isStrict_value : value.IsStrict :=
  fun _ t _ h => skip_of_value t (ok_of_liftJson h)

/-! ## Codecs of other codecs -/

@[simp] theorem isStrict_nullable (hc : c.IsStrict) : (nullable c).IsStrict := by
  intro d t a h
  cases t with
  | null => rfl
  | _ =>
    obtain ⟨b, hb, -⟩ := ok_of_map h
    exact hc hb

theorem isStrict_map {f : α → β} {g : β → α} (hc : c.IsStrict) : (c.map f g).IsStrict := by
  intro d t b h
  obtain ⟨a, ha, -⟩ := ok_of_map h
  exact hc ha

theorem skip_of_decodeItems (hc : c.IsStrict) {d : Nat} {items : List Tree} {as : List α}
    (h : decodeItems c d items = .ok as) : skipItems items = .ok () := by
  induction items generalizing as with
  | nil => rfl
  | cons t items ih =>
    obtain ⟨a, ha, h⟩ := ok_of_bind h
    obtain ⟨bs, hbs, -⟩ := ok_of_bind h
    exact skipItems_cons (hc ha) (ih hbs)

@[simp] theorem isStrict_list (hc : c.IsStrict) : (list c).IsStrict := by
  intro d t as h
  cases t with
  | array items ending =>
    cases d with
    | zero => cases h
    | succ d =>
      obtain ⟨bs, hbs, h⟩ := ok_of_bind h
      obtain ⟨⟨⟩, hending, -⟩ := ok_of_bind h
      exact skip_array (skip_of_decodeItems hc hbs) (lax_of_strict (ok_of_liftJson hending))
  | _ => cases h

theorem skip_of_decodeMembers (hc : c.IsStrict) {d : Nat}
    {members : List (Except Json.Fault String × Tree)} {ms : List (String × α)}
    (h : decodeMembers c d members = .ok ms) : skipMembers members = .ok () := by
  induction members generalizing ms with
  | nil => rfl
  | cons p members ih =>
    obtain ⟨k, -, h⟩ := ok_of_bind h
    obtain ⟨a, ha, h⟩ := ok_of_bind h
    obtain ⟨ns, hns, -⟩ := ok_of_bind h
    exact skipMembers_cons (hc ha) (ih hns)

@[simp] theorem isStrict_keyed (hc : c.IsStrict) : (keyed c).IsStrict := by
  intro d t m h
  cases t with
  | object members ending =>
    cases d with
    | zero => cases h
    | succ d =>
      obtain ⟨ms, hms, h⟩ := ok_of_bind h
      obtain ⟨⟨⟩, hending, -⟩ := ok_of_bind h
      exact skip_object (skip_of_decodeMembers hc hms)
        (lax_of_strict_object (ok_of_liftJson hending))
  | _ => cases h

/-- A choice in the form of an object has one member, which is null. -/
theorem skip_of_decodeNamed [Choice α] {members : List (Except Json.Fault String × Tree)}
    {ending : Json.ObjectEnd Tree} {a : α} (h : decodeNamed α members ending = .ok a) :
    (Tree.object members ending).skip = .ok () := by
  cases members with
  | nil => cases ending <;> cases h
  | cons p rest =>
    obtain ⟨key, t⟩ := p
    obtain ⟨k, -, h⟩ := ok_of_bind h
    obtain ⟨b, -, h⟩ := ok_of_bind h
    obtain ⟨⟨⟩, ht, h⟩ := ok_of_bind h
    have hskip := isStrict_unit ht
    split at h
    · exact skip_object (skipMembers_cons hskip rfl) rfl
    · cases h
    · cases h

@[simp] theorem isStrict_choice [Choice α] : (choice α).IsStrict := by
  intro d t a h
  cases t with
  | string s => rfl
  | object members ending =>
    cases d with
    | zero => cases h
    | succ d => exact skip_of_decodeNamed h
  | _ => cases h

/-! ## Records -/

variable {cs : List Column}

theorem Slots.skip_of_accept (hcs : ∀ c ∈ cs, c.codec.IsStrict) {d : Nat} {name : String} {t : Tree}
    {slots slots' : Slots cs} (h : slots.accept d name t cs = .ok slots') : t.skip = .ok () := by
  induction cs with
  | nil =>
    obtain ⟨⟨⟩, ht, -⟩ := ok_of_map h
    exact ok_of_liftJson ht
  | cons c cs ih =>
    obtain ⟨slot, rest⟩ := slots
    obtain ⟨hc, hcs⟩ := List.forall_mem_cons.mp hcs
    rw [accept_cons] at h
    split_ifs at h
    · cases slot with
      | some a => cases h
      | none =>
        obtain ⟨a, ha, -⟩ := ok_of_map h
        exact hc ha
    · obtain ⟨rest', hrest, -⟩ := ok_of_map h
      exact ih hcs hrest

theorem Slots.skip_of_acceptAll (hcs : ∀ c ∈ cs, c.codec.IsStrict) {d : Nat}
    {members : List (Except Json.Fault String × Tree)} {slots slots' : Slots cs}
    (h : acceptAll d cs members slots = .ok slots') : skipMembers members = .ok () := by
  induction members generalizing slots with
  | nil => rfl
  | cons p members ih =>
    obtain ⟨k, -, h⟩ := ok_of_bind h
    obtain ⟨slots'', hslots'', h⟩ := ok_of_bind h
    exact skipMembers_cons (Slots.skip_of_accept hcs hslots'') (ih h)

/-- Items beyond the columns are refused. -/
theorem Row.skip_of_ofItems (hcs : ∀ c ∈ cs, c.codec.IsStrict) {d : Nat} {record : String}
    {width index : Nat} {items : List Tree} {ending : Json.ArrayEnd} {row : Row cs}
    (h : ofItems d record width cs index items ending = .ok row) :
    skipItems items = .ok () ∧ ending.lax = .ok () := by
  induction cs generalizing index items with
  | nil =>
    cases items with
    | nil => exact ⟨rfl, lax_of_full (ok_of_liftJson h)⟩
    | cons t items => cases h
  | cons c cs ih =>
    obtain ⟨hc, hcs⟩ := List.forall_mem_cons.mp hcs
    cases items with
    | nil =>
      unfold ofItems at h
      obtain ⟨⟨⟩, hending, -⟩ := ok_of_bind h
      exact ⟨rfl, lax_of_strict (ok_of_liftJson hending)⟩
    | cons t items =>
      unfold ofItems at h
      obtain ⟨a, ha, h⟩ := ok_of_bind h
      obtain ⟨row', hrow', -⟩ := ok_of_bind h
      obtain ⟨hitems, hending⟩ := ih hcs hrow'
      exact ⟨skipItems_cons (hc ha) hitems, hending⟩

theorem isStrict_row {record : String} (hcs : ∀ c ∈ cs, c.codec.IsStrict) :
    (row record cs).IsStrict := by
  intro d t r h
  cases t with
  | object members ending =>
    cases d with
    | zero => cases h
    | succ d =>
      obtain ⟨slots, hslots, h⟩ := ok_of_bind h
      obtain ⟨⟨⟩, hending, -⟩ := ok_of_bind h
      exact skip_object (Slots.skip_of_acceptAll hcs hslots)
        (lax_of_strict_object (ok_of_liftJson hending))
  | array items ending =>
    cases d with
    | zero => cases h
    | succ d =>
      obtain ⟨hitems, hending⟩ := Row.skip_of_ofItems hcs h
      exact skip_array hitems hending
  | _ => cases h

theorem skip_of_collect (hcs : ∀ c ∈ cs, c.codec.IsStrict) {d : Nat}
    {members : List (Except Json.Fault String × Tree)} {slots slots' : Slots cs}
    {others : List (String × Json.Value)} (h : collect d cs members slots = .ok (slots', others)) :
    skipMembers members = .ok () := by
  induction members generalizing slots others with
  | nil => rfl
  | cons p members ih =>
    obtain ⟨key, t⟩ := p
    obtain ⟨k, -, h⟩ := ok_of_bind h
    split at h
    · obtain ⟨slots'', hslots'', h⟩ := ok_of_bind h
      exact skipMembers_cons (Slots.skip_of_accept hcs hslots'') (ih h)
    · obtain ⟨v, hv, h⟩ := ok_of_bind h
      obtain ⟨⟨slots'', others'⟩, hrest, h⟩ := ok_of_bind h
      cases h
      exact skipMembers_cons (isStrict_value hv) (ih hrest)

theorem isStrict_openRow {record : String} (hcs : ∀ c ∈ cs, c.codec.IsStrict) :
    (openRow record cs).IsStrict := by
  intro d t p h
  cases t with
  | object members ending =>
    cases d with
    | zero => cases h
    | succ d =>
      obtain ⟨⟨slots, others⟩, hcollect, h⟩ := ok_of_bind h
      obtain ⟨⟨⟩, hending, -⟩ := ok_of_bind h
      exact skip_object (skip_of_collect hcs hcollect)
        (lax_of_strict_object (ok_of_liftJson hending))
  | _ => cases h

@[simp] theorem isStrict_record {record : String} {f : Row cs → β} {g : β → Row cs}
    (hcs : ∀ c ∈ cs, c.codec.IsStrict) : ((row record cs).map f g).IsStrict :=
  isStrict_map (isStrict_row hcs)

section Columns

variable {name : String}

@[simp] theorem isStrict_required (hc : c.IsStrict) : (required name c).codec.IsStrict := hc

@[simp] theorem isStrict_withDefault {a : α} (hc : c.IsStrict) :
    (withDefault name c a).codec.IsStrict := hc

/-- A column that may be null or missing. -/
@[simp] theorem isStrict_optional (hc : c.IsStrict) :
    (withDefault name (nullable c) none).codec.IsStrict := isStrict_nullable hc

end Columns

end Codec

end IdentityApi
