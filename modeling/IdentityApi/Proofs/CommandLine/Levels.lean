import IdentityApi.Proofs.CommandLine.Words

/-! # Levels without an option

As long as no word mentions an option, no level has a value for it (`Frame.IsFree`). All levels are
nodes of the tree, where names of slots differ, no command begins with a dash, and no command is made
from what was given for the common options (`Node.IsSound`).
-/
namespace IdentityApi.CommandLine

open Json (ok_of_map ok_of_bind bind_eq_ok_iff map_eq_ok_iff)

/-! ## The tree -/

/-- A command is made without a look at the common options. -/
def Leaf.IsBlind (l : Leaf) : Prop :=
  ∀ a b : Arguments, (∀ name ∉ Node.common.map Slot.name, a.lookup name = b.lookup name) →
    l.make a = l.make b

namespace Node

variable {n m : Node} {w : String}

def slots (n : Node) : List Slot := n.operand.toList ++ n.options

inductive IsSound : Node → Prop
  | group {children : List (String × Node)} :
    (∀ c ∈ children, c.1.toList.head? ≠ some '-') → (∀ c ∈ children, IsSound c.2) →
    IsSound (group children)
  | leaf {l : Leaf} : ((leaf l).slots.map Slot.name).Nodup → l.IsBlind → IsSound (leaf l)

theorem isBlind_plain (c : Command) : (plain c).IsBlind := fun _ _ _ => rfl

theorem root_isSound : root.IsSound := by
  have hblind : ∀ l ∈ [listUsers, getUser, listGroups, listApps, checkAccess, listDevices,
      listEvents], l.IsBlind := by
    simp only [List.mem_cons, List.not_mem_nil, or_false, forall_eq_or_imp, forall_eq]
    refine ⟨?_, ?_, ?_, ?_, ?_, ?_, ?_⟩ <;> intro a b h <;>
      simp (disch := decide) only [listUsers, getUser, listGroups, listApps, checkAccess,
        listDevices, listEvents, Arguments.text?, Arguments.truth?, Arguments.integer?,
        Arguments.count?, h]
  simp only [List.mem_cons, List.not_mem_nil, or_false, forall_eq_or_imp, forall_eq] at hblind
  obtain ⟨hlistUsers, hgetUser, hlistGroups, hlistApps, hcheckAccess, hlistDevices,
    hlistEvents⟩ := hblind
  refine .group (by decide) ?_
  simp only [List.mem_cons, List.not_mem_nil, or_false, forall_eq_or_imp, forall_eq]
  refine ⟨.group (by decide) ?_, .group (by decide) ?_, .group (by decide) ?_,
    .group (by decide) ?_, .group (by decide) ?_, .group (by decide) ?_⟩ <;>
    simp only [List.mem_cons, List.not_mem_nil, or_false, forall_eq_or_imp, forall_eq]
  · exact ⟨.leaf (by decide) hlistUsers, .leaf (by decide) hgetUser,
      .leaf (by decide) (isBlind_plain _)⟩
  · exact .leaf (by decide) hlistGroups
  · exact ⟨.leaf (by decide) hlistApps, .leaf (by decide) hcheckAccess⟩
  · exact .leaf (by decide) hlistDevices
  · exact .leaf (by decide) hlistEvents
  · exact ⟨.leaf (by decide) (isBlind_plain _), .leaf (by decide) (isBlind_plain _)⟩

theorem mem_of_lookup {children : List (String × Node)} (h : children.lookup w = some n) :
    (w, n) ∈ children := by
  obtain ⟨a, b, rfl, -⟩ := List.lookup_eq_some_iff.mp h
  simp

theorem IsSound.child? (hn : n.IsSound) (h : n.child? w = some m) : m.IsSound := by
  unfold Node.child? at h
  split_ifs at h
  · cases h
    exact .group (List.forall_mem_nil _) (List.forall_mem_nil _)
  · cases hn with
    | group _ hchildren => exact hchildren (w, m) (mem_of_lookup h)
    | leaf => cases h

theorem IsSound.child?_of_dash (hn : n.IsSound) (h : w.toList.head? = some '-') :
    n.child? w = none := by
  have hhelp : w ≠ "help" := by
    rintro rfl
    cases h
  simp only [Node.child?, hhelp, decide_false, Bool.false_and, Bool.false_eq_true, if_false]
  cases hn with
  | group hnames =>
    rw [Option.eq_none_iff_forall_ne_some]
    exact fun m hm => hnames _ (mem_of_lookup hm) h
  | leaf => rfl

theorem mem_options_of_mem_common {slot : Slot} (h : slot ∈ common) (n : Node) :
    slot ∈ n.options := by
  cases n with
  | group => exact h
  | leaf l => exact List.mem_append_right _ h

theorem IsSound.nodup_slots (hn : n.IsSound) : (n.slots.map Slot.name).Nodup := by
  cases hn with
  | group => simp [slots, operand, options, common]
  | leaf hnodup => exact hnodup

theorem IsSound.operand_ne_common {slot other : Slot} (hn : n.IsSound)
    (hoperand : n.operand = some other) (hslot : slot ∈ common) : other.name ≠ slot.name := by
  have hnodup := hn.nodup_slots
  rw [slots, hoperand, Option.toList_some, List.singleton_append, List.map_cons,
    List.nodup_cons] at hnodup
  exact fun hname => hnodup.1 (hname ▸ List.mem_map_of_mem (mem_options_of_mem_common hslot n))

/-- Slots of one node are told by their names. -/
theorem IsSound.eq_of_name_eq (hn : n.IsSound) {a b : Slot} (ha : a ∈ n.slots) (hb : b ∈ n.slots)
    (h : a.name = b.name) : a = b :=
  List.inj_on_of_nodup_map hn.nodup_slots ha hb h

end Node

/-! ## Values of one level -/

namespace Frame

variable {f g : Frame} {slot : Slot} {value : Option String} {name w : String}

/-- What was held back at a level is checked, unless nothing was. -/
inductive Settles (f : Frame) : Frame → Prop
  | idle : f.pending = none → Settles f f
  | checked {slot : Slot} {s : String} {v : Argument} :
    f.pending = some ⟨slot, some s⟩ → (∀ entry ∈ f.given, entry.1 ≠ slot.name) →
    slot.kind.read s = .ok v →
    Settles f { f with given := f.given ++ [(slot.name, v)], pending := none }

theorem any_given_eq_false_iff :
    f.given.any (·.1 == name) = false ↔ ∀ entry ∈ f.given, entry.1 ≠ name := by
  simp only [List.any_eq_false, beq_iff_eq, ne_eq]

theorem settle_eq_ok_iff : f.settle = .ok g ↔ f.Settles g := by
  constructor
  · intro h
    unfold settle at h
    split at h
    next hpending =>
      cases h
      exact .idle hpending
    next => cases h
    next hpending =>
      split_ifs at h with hany
      obtain ⟨v, hv, rfl⟩ := ok_of_map h
      exact .checked hpending (any_given_eq_false_iff.mp (Bool.not_eq_true _ ▸ hany)) hv
  · intro h
    cases h with
    | idle hpending => rw [settle, hpending]
    | checked hpending hgiven hv =>
      simp only [settle, hpending, any_given_eq_false_iff.mpr hgiven, hv]
      rfl

theorem Settles.pending (h : f.Settles g) : g.pending = none := by
  cases h with
  | idle hpending => exact hpending
  | checked => rfl

theorem Settles.node (h : f.Settles g) : g.node = f.node := by
  cases h <;> rfl

theorem hold_eq_ok_iff : f.hold ⟨slot, value⟩ = .ok g ↔
    ∃ e, f.Settles e ∧ g = { e with pending := some ⟨slot, value⟩ } := by
  simp only [hold, map_eq_ok_iff, settle_eq_ok_iff, eq_comm (b := g)]

theorem awaiting?_eq_some_iff : f.awaiting? = some slot ↔ f.pending = some ⟨slot, none⟩ := by
  unfold awaiting?
  split
  next hpending => simp [hpending]
  next hno =>
    simp only [reduceCtorEq, false_iff]
    exact fun h => hno slot h

theorem option?_eq_some (h : f.option? name = some slot) :
    slot ∈ f.node.slots ∧ slot.name = name :=
  ⟨List.mem_append_right _ (List.mem_of_find?_eq_some h), by simpa using List.find?_some h⟩

theorem mem_slots_of_operand (h : f.node.operand = some slot) : slot ∈ f.node.slots :=
  List.mem_append_left _ (by simp [h])

/-- A level of the tree without a value for one option. -/
structure IsFree (name : String) (f : Frame) : Prop where
  sound : f.node.IsSound
  given : ∀ entry ∈ f.given, entry.1 ≠ name
  pending : ∀ p ∈ f.pending, p.slot ∈ f.node.slots ∧ p.slot.name ≠ name

theorem IsFree.of_isSound {n : Node} (h : n.IsSound) : IsFree name { node := n } :=
  ⟨h, List.forall_mem_nil _, fun _ hp => nomatch hp⟩

theorem IsFree.lookup_given (hf : f.IsFree name) : f.given.lookup name = none := by
  rw [List.lookup_eq_none_iff]
  exact fun entry hentry => bne_iff_ne.mpr (hf.given entry hentry).symm

theorem IsFree.settle (hf : f.IsFree name) (h : f.Settles g) : g.IsFree name := by
  cases h with
  | idle => exact hf
  | checked hpending =>
    refine ⟨hf.sound, ?_, fun _ h => nomatch h⟩
    intro entry hentry
    obtain hentry | hentry := List.mem_append.mp hentry
    · exact hf.given entry hentry
    · obtain rfl := List.mem_singleton.mp hentry
      exact (hf.pending _ hpending).2

theorem IsFree.of_settles {l m : List Frame} (hl : ∀ f ∈ l, f.IsFree name)
    (h : List.Forall₂ Settles l m) : ∀ f ∈ m, f.IsFree name := by
  induction h with
  | nil => exact List.forall_mem_nil _
  | cons hsettles _ ih =>
    obtain ⟨hf, hl⟩ := List.forall_mem_cons.mp hl
    exact List.forall_mem_cons.mpr ⟨hf.settle hsettles, ih hl⟩

theorem IsFree.hold (hf : f.IsFree name) (hslot : slot ∈ f.node.slots) (hname : slot.name ≠ name)
    (h : f.hold ⟨slot, value⟩ = .ok g) : g.IsFree name := by
  obtain ⟨e, he, rfl⟩ := hold_eq_ok_iff.mp h
  have hfree := hf.settle he
  refine ⟨hfree.sound, hfree.given, ?_⟩
  intro p hp
  obtain rfl := Option.mem_some_iff.mp hp
  exact ⟨he.node ▸ hslot, hname⟩

end Frame

/-! ## Words without an option -/

/-- A word that names an option, with its value or without. -/
def Mentions (name w : String) : Prop := NamesOption w name ∨ ∃ value, GivesOption w name value

/-- In front of two dashes no word mentions the option. -/
def Lacks (name : String) (words : List String) : Prop :=
  ∀ w ∈ words.takeWhile (· ≠ "--"), ¬ Mentions name w

variable {name w : String} {words rest : List String}

theorem Mentions.isPrefix (h : Mentions name w) : ("--" ++ name).toList <+: w.toList := by
  obtain ⟨rfl, -⟩ | ⟨value, rfl, -⟩ := h
  · exact List.prefix_rfl
  · exact ⟨'=' :: value.toList, by simp⟩

theorem not_mentions_dashes : ¬ Mentions name "--" := by
  rintro (hname | ⟨value, hgives⟩)
  · obtain ⟨c, cs, hw, -⟩ := hname.exists_split
    cases hw
  · obtain ⟨c, cs, hw, -⟩ := hgives.exists_split
    cases hw

theorem lacks_cons_iff :
    Lacks name (w :: rest) ↔ (w ≠ "--" → ¬ Mentions name w ∧ Lacks name rest) := by
  by_cases hw : w = "--" <;> simp [Lacks, hw]

namespace Frame

variable {f g : Frame} {e : Effect} {escaped : Bool} {slot : Slot}

theorem leadsTo?_eq_some {n : Node} (h : f.leadsTo? w = some n) :
    f.awaiting? = none ∧ f.node.child? w = some n := by
  unfold leadsTo? at h
  split_ifs at h with hawaits
  exact ⟨Option.isNone_iff_eq_none.mp hawaits, h⟩

theorem leadsTo?_of_dash (hf : f.node.IsSound) (h : w.toList.head? = some '-') :
    f.leadsTo? w = none := by
  rw [leadsTo?, hf.child?_of_dash h, ite_self]

/-- Two dashes are never taken for anything else, as long as they have a meaning. -/
theorem Takes.eq_escape (hf : f.node.IsSound) (h : f.Takes false "--" e) : e = .escape := by
  have hnotPlain : ¬ IsPlain "--" := fun h => h '-' [] rfl
  cases h with
  | enter hlead =>
    rw [leadsTo?_of_dash hf rfl] at hlead
    cases hlead
  | escape => rfl
  | option _ hname => exact absurd (Or.inl hname) not_mentions_dashes
  | optionWithValue _ hgives => exact absurd (Or.inr ⟨_, hgives⟩) not_mentions_dashes
  | value hplain => exact absurd hplain hnotPlain
  | operand hplace => exact absurd (hplace rfl).2.1 hnotPlain

/-- A word that mentions one option does not mean another. -/
theorem option?_of_mentions {other : String} (hw : ¬ Mentions name w) (hother : Mentions other w)
    (h : f.option? other = some slot) : slot ∈ f.node.slots ∧ slot.name ≠ name := by
  obtain ⟨hmem, rfl⟩ := option?_eq_some h
  exact ⟨hmem, fun hname => hw (hname ▸ hother)⟩

/-- A level stays free of an option that a word does not mention. -/
theorem IsFree.takes (hslot : slot ∈ Node.common) (hf : f.IsFree slot.name)
    (hw : escaped = false → ¬ Mentions slot.name w) (h : f.Takes escaped w (.become g)) :
    g.IsFree slot.name := by
  cases h with
  | option _ hname hother hhold =>
    obtain ⟨hmem, hne⟩ := option?_of_mentions (hw rfl) (Or.inl hname) hother
    exact hf.hold hmem hne hhold
  | optionWithValue _ hgives hother hhold hsettle =>
    obtain ⟨hmem, hne⟩ := option?_of_mentions (hw rfl) (Or.inr ⟨_, hgives⟩) hother
    exact (hf.hold hmem hne hhold).settle (settle_eq_ok_iff.mp hsettle)
  | value _ hawaits =>
    refine ⟨hf.sound, hf.given, ?_⟩
    intro p hp
    obtain rfl := Option.mem_some_iff.mp hp
    exact hf.pending ⟨_, none⟩ (awaiting?_eq_some_iff.mp hawaits)
  | operand _ hoperand _ hhold =>
    refine hf.hold (mem_slots_of_operand hoperand) (fun hname => ?_) hhold
    exact hf.sound.operand_ne_common hoperand hslot hname

end Frame

namespace State

variable {s t : State} {e : Effect} {slot : Slot}

/-- All levels, from the innermost to the outermost. -/
def levels (s : State) : List Frame := s.frame :: s.outer

def IsFree (name : String) (s : State) : Prop := ∀ f ∈ s.levels, f.IsFree name

theorem IsFree.frame (hs : s.IsFree name) : s.frame.IsFree name := hs _ List.mem_cons_self

theorem isFree_start (name : String) : start.IsFree name :=
  List.forall_mem_singleton.mpr (.of_isSound Node.root_isSound)

theorem IsFree.apply (hslot : slot ∈ Node.common) (hs : s.IsFree slot.name)
    (hw : s.afterDashes = false → ¬ Mentions slot.name w)
    (h : s.frame.Takes s.afterDashes w e) : (e.apply s).IsFree slot.name := by
  obtain ⟨hframe, houter⟩ := List.forall_mem_cons.mp hs
  cases e with
  | enter n =>
    have hchild := (Frame.leadsTo?_eq_some (Frame.takes_enter_iff.mp h).2.1).2
    exact List.forall_mem_cons.mpr ⟨.of_isSound (hframe.sound.child? hchild), hs⟩
  | become g => exact List.forall_mem_cons.mpr ⟨hframe.takes hslot hw h, houter⟩
  | escape => exact hs

theorem afterDashes_apply (hsound : s.frame.node.IsSound) (hdashes : s.afterDashes = false)
    (h : s.frame.Takes s.afterDashes w e) (he : (e.apply s).afterDashes = false) : w ≠ "--" := by
  rintro rfl
  rw [hdashes] at h
  obtain rfl := h.eq_escape hsound
  cases he

/-- What the words in front of two dashes lack, the first of them lacks and the others. -/
theorem lacks_of_takes (hsound : s.frame.node.IsSound)
    (hlacks : s.afterDashes = false → Lacks name (w :: rest))
    (h : s.frame.Takes s.afterDashes w e) :
    (s.afterDashes = false → ¬ Mentions name w) ∧
      ((e.apply s).afterDashes = false → Lacks name rest) := by
  have hdashes : (e.apply s).afterDashes = false → s.afterDashes = false := by
    cases e with
    | escape => exact fun h => nomatch h
    | enter | become => exact id
  constructor
  · intro hs
    by_cases hw : w = "--"
    · exact hw ▸ not_mentions_dashes
    · exact (lacks_cons_iff.mp (hlacks hs) hw).1
  · intro he
    have hs := hdashes he
    exact (lacks_cons_iff.mp (hlacks hs) (afterDashes_apply hsound hs h he)).2

theorem IsFree.run (hslot : slot ∈ Node.common) (hs : s.IsFree slot.name)
    (hlacks : s.afterDashes = false → Lacks slot.name words) (h : s.run words = .ok t) :
    t.IsFree slot.name := by
  induction words generalizing s with
  | nil =>
    cases h
    exact hs
  | cons w rest ih =>
    obtain ⟨e, he, hrest⟩ := exists_takes_of_run h
    obtain ⟨hw, hlacks⟩ := lacks_of_takes hs.frame.sound hlacks he
    exact ih (hs.apply hslot hw he) hlacks hrest

end State

end IdentityApi.CommandLine
