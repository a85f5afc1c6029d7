import IdentityApi.Proofs.CommandLine.Levels

/-! # One more value in a run

A run that has been given a value for a common option goes through the same levels as the run without
it, as long as no word mentions that option: each word does the same in both (`State.Extends.run`).
At one of the levels the value stands besides the others. There the value before it was checked
earlier than it would be otherwise, so the relation of levels has two cases (`Frame.Extends`).
-/
namespace IdentityApi.CommandLine

open Json (ok_of_map ok_of_bind bind_eq_ok_iff map_eq_ok_iff)

variable {x : String × Argument} {slot : Slot} {v : Argument} {name w text : String}

/-! ## One more value at a level -/

namespace Frame

variable {f g e : Frame} {escaped : Bool}

structure Inserts (x : String × Argument) (f g : Frame) : Prop where
  node : g.node = f.node
  pending : g.pending = f.pending
  given : ∃ front back, f.given = front ++ back ∧ g.given = front ++ x :: back

/-- One more value at a level, behind one that was held back there or not. -/
def Extends (x : String × Argument) (f g : Frame) : Prop :=
  Inserts x f g ∨ ∃ e, f.Settles e ∧ Inserts x e g

theorem Settles.unique (h : f.Settles e) (h' : f.Settles g) : g = e :=
  Except.ok.inj ((settle_eq_ok_iff.mpr h').symm.trans (settle_eq_ok_iff.mpr h))

theorem Settles.awaiting? (h : f.Settles e) : f.awaiting? = none := by
  cases h with
  | idle hpending => rw [Frame.awaiting?, hpending]
  | checked hpending => rw [Frame.awaiting?, hpending]

namespace Inserts

variable (h : Inserts x f g)

include h

theorem mem_given_iff {entry : String × Argument} :
    entry ∈ g.given ↔ entry = x ∨ entry ∈ f.given := by
  obtain ⟨front, back, hf, hg⟩ := h.given
  rw [hf, hg, List.mem_append, List.mem_cons, List.mem_append]
  exact or_left_comm

theorem lookup_of_ne (hname : name ≠ x.1) : g.given.lookup name = f.given.lookup name := by
  obtain ⟨front, back, hf, hg⟩ := h.given
  have hother : (name == x.1) = false := beq_eq_false_iff_ne.mpr hname
  rw [hf, hg, List.lookup_append, List.lookup_append, List.lookup_cons, hother]

theorem lookup_told (hf : f.IsFree x.1) : g.given.lookup x.1 = some x.2 := by
  obtain ⟨front, back, hfront, hg⟩ := h.given
  have hnone := hf.lookup_given
  rw [hfront, List.lookup_append, Option.or_eq_none_iff] at hnone
  rw [hg, List.lookup_append, hnone.1, List.lookup_cons, beq_self_eq_true]
  rfl

theorem settles (hf : f.IsFree x.1) (he : f.Settles e) : ∃ e', g.Settles e' ∧ Inserts x e e' := by
  obtain ⟨front, back, hgiven, hgiven'⟩ := h.given
  cases he with
  | idle hpending => exact ⟨g, .idle (h.pending.trans hpending), h⟩
  | @checked slot s v hpending hother hv =>
    have hother' : ∀ entry ∈ g.given, entry.1 ≠ slot.name := by
      intro entry hentry
      obtain rfl | hentry := h.mem_given_iff.mp hentry
      · exact (hf.pending _ hpending).2.symm
      · exact hother entry hentry
    refine ⟨_, .checked (h.pending.trans hpending) hother' hv, h.node, rfl, front,
      back ++ [(slot.name, v)], ?_, ?_⟩
    · simp [hgiven]
    · simp [hgiven']

theorem command {c : Command} (hf : f.node.IsSound) (hx : x.1 ∈ Node.common.map Slot.name)
    (hc : f.command = .ok c) : g.command = .ok c := by
  unfold Frame.command at hc ⊢
  rw [h.node]
  generalize f.node = n at hf hc
  cases hf with
  | group => cases hc
  | leaf _ hblind =>
    have hmake := hblind g.given f.given fun name hname =>
      h.lookup_of_ne (ne_of_mem_of_not_mem hx hname).symm
    simp only [hmake]
    exact hc

end Inserts

theorem holds_eq_true_iff : f.holds slot = true ↔
    (∃ entry ∈ f.given, entry.1 = slot.name) ∨ ∃ p ∈ f.pending, p.slot = slot := by
  simp only [holds, Bool.or_eq_true, List.any_eq_true, beq_iff_eq, Option.any_eq_true,
    Option.mem_def]

theorem Settles.holds (hf : f.IsFree name) (he : f.Settles e) (hslot : slot ∈ f.node.slots) :
    e.holds slot = f.holds slot := by
  cases he with
  | idle => rfl
  | @checked other s v hpending _ _ =>
    have hother := (hf.pending _ hpending).1
    have hsame : other.name = slot.name ↔ other = slot :=
      ⟨hf.sound.eq_of_name_eq hother hslot, congrArg Slot.name⟩
    rw [Bool.eq_iff_iff, holds_eq_true_iff, holds_eq_true_iff, hpending]
    simp [or_and_right, exists_or, hsame]

theorem Inserts.holds (h : Inserts x f g) (hname : slot.name ≠ x.1) :
    g.holds slot = f.holds slot := by
  rw [Bool.eq_iff_iff, holds_eq_true_iff, holds_eq_true_iff, h.pending]
  simp [h.mem_given_iff, or_and_right, exists_or, hname.symm]

namespace Extends

variable (h : Extends x f g)

include h

theorem node : g.node = f.node := by
  obtain h | ⟨e, he, h⟩ := h
  · exact h.node
  · exact h.node.trans he.node

theorem awaiting? : g.awaiting? = f.awaiting? := by
  obtain h | ⟨e, he, h⟩ := h
  · rw [Frame.awaiting?, h.pending, Frame.awaiting?]
  · rw [he.awaiting?, Frame.awaiting?, h.pending, he.pending]

theorem leadsTo? : g.leadsTo? w = f.leadsTo? w := by
  rw [Frame.leadsTo?, h.awaiting?, h.node, Frame.leadsTo?]

theorem holds (hf : f.IsFree x.1) (hslot : slot ∈ f.node.slots) (hname : slot.name ≠ x.1) :
    g.holds slot = f.holds slot := by
  obtain h | ⟨e, he, h⟩ := h
  · exact h.holds hname
  · exact (h.holds hname).trans (he.holds hf hslot)

theorem settles (hf : f.IsFree x.1) (he : f.Settles e) : ∃ e', g.Settles e' ∧ Inserts x e e' := by
  obtain h | ⟨e', he', h⟩ := h
  · exact h.settles hf he
  · obtain rfl := he.unique he'
    exact ⟨g, .idle (h.pending.trans he'.pending), h⟩

theorem hold {f' : Frame} {value : Option String} (hf : f.IsFree x.1)
    (hhold : f.hold ⟨slot, value⟩ = .ok f') :
    ∃ g', g.hold ⟨slot, value⟩ = .ok g' ∧ Inserts x f' g' := by
  obtain ⟨e, he, rfl⟩ := hold_eq_ok_iff.mp hhold
  obtain ⟨e', he', hins⟩ := h.settles hf he
  exact ⟨_, hold_eq_ok_iff.mpr ⟨e', he', rfl⟩, hins.node, rfl, hins.given⟩

end Extends

/-- What a word does at a level, it also does besides one more value. -/
theorem Extends.takes {f' : Frame} (h : Extends (slot.name, v) f g) (hslot : slot ∈ Node.common)
    (hf : f.IsFree slot.name) (hw : escaped = false → ¬ Mentions slot.name w)
    (htakes : f.Takes escaped w (.become f')) :
    ∃ g', g.Takes escaped w (.become g') ∧ Extends (slot.name, v) f' g' := by
  have hoption : ∀ name, g.option? name = f.option? name := fun name => by
    rw [option?, h.node, option?]
  cases htakes with
  | option hlead hname hother hhold =>
    obtain ⟨g', hg', hins⟩ := h.hold hf hhold
    exact ⟨g', .option (h.leadsTo?.trans hlead) hname ((hoption _).trans hother) hg', Or.inl hins⟩
  | optionWithValue hlead hgives hother hhold hsettle =>
    obtain ⟨held', hheld', hins⟩ := h.hold hf hhold
    obtain ⟨hmem, hne⟩ := option?_of_mentions (hw rfl) (Or.inr ⟨_, hgives⟩) hother
    obtain ⟨g', hg', hins'⟩ :=
      hins.settles (hf.hold hmem hne hhold) (settle_eq_ok_iff.mp hsettle)
    exact ⟨g', .optionWithValue (h.leadsTo?.trans hlead) hgives ((hoption _).trans hother) hheld'
      (settle_eq_ok_iff.mpr hg'), Or.inl hins'⟩
  | value hplain hawaits =>
    have hawaits' := h.awaiting?.trans hawaits
    obtain hins | ⟨e, he, -⟩ := h
    · exact ⟨_, .value hplain hawaits', Or.inl ⟨hins.node, rfl, hins.given⟩⟩
    · rw [he.awaiting?] at hawaits
      cases hawaits
  | operand hplace hoperand hholds hhold =>
    obtain ⟨g', hg', hins⟩ := h.hold hf hhold
    have hholds' := h.holds hf (mem_slots_of_operand hoperand)
      (hf.sound.operand_ne_common hoperand hslot)
    refine ⟨g', .operand ?_ (h.node ▸ hoperand) (hholds'.trans hholds) hg', Or.inl hins⟩
    rw [h.leadsTo?, h.awaiting?]
    exact hplace

theorem option?_common (hf : f.node.IsSound) (hslot : slot ∈ Node.common) :
    f.option? slot.name = some slot := by
  have hmem := Node.mem_options_of_mem_common hslot f.node
  cases hfound : f.option? slot.name with
  | none =>
    have hno := List.find?_eq_none.mp hfound slot hmem
    exact absurd (beq_self_eq_true slot.name) hno
  | some other =>
    obtain ⟨hother, hname⟩ := option?_eq_some hfound
    rw [hf.eq_of_name_eq hother (List.mem_append_right _ hmem) hname]

/-- A common option that is given with its value becomes one more value, once what was held back is
checked. -/
theorem exists_takes_of_givesOption (hslot : slot ∈ Node.common)
    (hf : f.IsFree slot.name) (he : f.Settles e) (hw : GivesOption w slot.name text)
    (hv : slot.kind.read text = .ok v) :
    ∃ g, f.Takes false w (.become g) ∧ Extends (slot.name, v) f g := by
  obtain ⟨c, cs, hchars, -⟩ := hw.exists_split
  have hlead : f.leadsTo? w = none := leadsTo?_of_dash hf.sound (by rw [hchars]; rfl)
  have hhold : f.hold ⟨slot, some text⟩ = .ok { e with pending := some ⟨slot, some text⟩ } :=
    hold_eq_ok_iff.mpr ⟨e, he, rfl⟩
  have hsettle := Settles.checked (f := { e with pending := some ⟨slot, some text⟩ }) rfl
    (hf.settle he).given hv
  refine ⟨_, .optionWithValue hlead hw (option?_common hf.sound hslot) hhold
    (settle_eq_ok_iff.mpr hsettle), Or.inr ⟨e, he, rfl, he.pending.symm, e.given, [], ?_, rfl⟩⟩
  exact (List.append_nil _).symm

end Frame

/-! ## One more value in a run -/

/-- Two lists differ at one place, as the relation says. -/
inductive AtOne {α : Type} (R : α → α → Prop) : List α → List α → Prop
  | here {a b : α} (l : List α) : R a b → AtOne R (a :: l) (b :: l)
  | there (a : α) {l m : List α} : AtOne R l m → AtOne R (a :: l) (a :: m)

theorem atOne_cons_iff {α : Type} {R : α → α → Prop} {a b : α} {l m : List α} :
    AtOne R (a :: l) (b :: m) ↔ (R a b ∧ m = l) ∨ (b = a ∧ AtOne R l m) := by
  constructor
  · rintro (⟨_, hab⟩ | ⟨_, hlm⟩)
    · exact Or.inl ⟨hab, rfl⟩
    · exact Or.inr ⟨rfl, hlm⟩
  · rintro (⟨hab, rfl⟩ | ⟨rfl, hlm⟩)
    · exact .here _ hab
    · exact .there _ hlm

namespace State

variable {s t s' : State} {e : Effect} {words : List String}

/-- One more value at one of the levels. -/
structure Extends (x : String × Argument) (s t : State) : Prop where
  levels : AtOne (Frame.Extends x) s.levels t.levels
  afterDashes : t.afterDashes = s.afterDashes

theorem Extends.takes (h : Extends (slot.name, v) s t) (hslot : slot ∈ Node.common)
    (hs : s.IsFree slot.name) (hw : s.afterDashes = false → ¬ Mentions slot.name w)
    (htakes : s.frame.Takes s.afterDashes w e) :
    ∃ e', t.frame.Takes t.afterDashes w e' ∧
      Extends (slot.name, v) (e.apply s) (e'.apply t) := by
  obtain ⟨hlevels, hdashes⟩ := h
  rw [hdashes]
  obtain ⟨hframe, houter⟩ | ⟨hframe, houter⟩ := atOne_cons_iff.mp hlevels
  · cases e with
    | enter n =>
      rw [Frame.takes_enter_iff, ← hframe.leadsTo?, ← Frame.takes_enter_iff] at htakes
      exact ⟨.enter n, htakes, .there _ hlevels, hdashes⟩
    | become f' =>
      obtain ⟨g', hg', hext⟩ := hframe.takes hslot hs.frame hw htakes
      exact ⟨.become g', hg', atOne_cons_iff.mpr (Or.inl ⟨hext, houter⟩), hdashes⟩
    | escape =>
      rw [Frame.takes_escape_iff, ← hframe.leadsTo?, ← Frame.takes_escape_iff] at htakes
      exact ⟨.escape, htakes, hlevels, rfl⟩
  · refine ⟨e, hframe ▸ htakes, ?_⟩
    cases e with
    | enter n => exact ⟨.there _ hlevels, hdashes⟩
    | become f' => exact ⟨.there _ houter, hdashes⟩
    | escape => exact ⟨hlevels, rfl⟩

theorem Extends.run (h : Extends (slot.name, v) s t) (hslot : slot ∈ Node.common)
    (hs : s.IsFree slot.name) (hlacks : s.afterDashes = false → Lacks slot.name words)
    (hrun : s.run words = .ok s') :
    ∃ t', t.run words = .ok t' ∧ Extends (slot.name, v) s' t' := by
  induction words generalizing s t with
  | nil =>
    cases hrun
    exact ⟨t, rfl, h⟩
  | cons w rest ih =>
    obtain ⟨e, he, hrest⟩ := exists_takes_of_run hrun
    obtain ⟨hw, hlacks'⟩ := lacks_of_takes hs.frame.sound hlacks he
    obtain ⟨e', he', h'⟩ := h.takes hslot hs hw he
    rw [run_of_takes rfl he']
    exact ih h' (hs.apply hslot hw he) hlacks' hrest

end State

end IdentityApi.CommandLine
