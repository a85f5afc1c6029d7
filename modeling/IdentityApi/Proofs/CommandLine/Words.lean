import IdentityApi.CommandLine.Reader
import IdentityApi.Proofs.Json.Tree

/-! # What a word does

A word enters another level, becomes part of what was given at the innermost one, or ends the options
(`Effect`). Which of them it does depends on that level alone (`Frame.Takes`), and a run that
succeeds takes its words one by one (`State.exists_takes_of_run`, `State.run_of_takes`).
-/
namespace IdentityApi.CommandLine

open Json (ok_of_map ok_of_bind bind_eq_ok_iff map_eq_ok_iff)

inductive Effect where
  | enter (n : Node)
  | become (f : Frame)
  | escape

def Effect.apply (s : State) : Effect → State
  | enter n => s.enter n
  | become f => s.withFrame f
  | escape => { s with afterDashes := true }

/-- A word that does not begin like an option. -/
def IsPlain (w : String) : Prop := ∀ letter rest, w.toList ≠ '-' :: letter :: rest

/-- A word that names an option and leaves its value to the next word. -/
def NamesOption (w : String) (name : String) : Prop :=
  w = "--" ++ name ∧ name ≠ "" ∧ '=' ∉ name.toList

/-- A word that names an option and gives its value. -/
def GivesOption (w : String) (name value : String) : Prop :=
  w = "--" ++ name ++ "=" ++ value ∧ '=' ∉ name.toList

theorem NamesOption.exists_split {w name : String} (h : NamesOption w name) :
    ∃ c cs, w.toList = '-' :: '-' :: c :: cs ∧ State.splitOption (c :: cs) = (name, none) := by
  obtain ⟨rfl, hname, hsign⟩ := h
  obtain ⟨c, cs, hcs⟩ := List.exists_cons_of_ne_nil (mt String.toList_eq_nil_iff.mp hname)
  have hall : ∀ c ∈ name.toList, (c != '=') = true :=
    fun c hc => bne_iff_ne.mpr (ne_of_mem_of_not_mem hc hsign)
  refine ⟨c, cs, by simp [hcs], ?_⟩
  rw [← hcs, State.splitOption, List.takeWhile_eq_self_iff.mpr hall,
    List.dropWhile_eq_nil_iff.mpr hall, String.ofList_toList]

theorem GivesOption.exists_split {w name value : String} (h : GivesOption w name value) :
    ∃ c cs, w.toList = '-' :: '-' :: c :: cs ∧
      State.splitOption (c :: cs) = (name, some value) := by
  obtain ⟨rfl, hsign⟩ := h
  have hne : name.toList ++ '=' :: value.toList ≠ [] :=
    List.append_ne_nil_of_right_ne_nil _ (List.cons_ne_nil _ _)
  obtain ⟨c, cs, hcs⟩ := List.exists_cons_of_ne_nil hne
  have hall : ∀ c ∈ name.toList, (c != '=') = true :=
    fun c hc => bne_iff_ne.mpr (ne_of_mem_of_not_mem hc hsign)
  refine ⟨c, cs, by simp [← hcs], ?_⟩
  rw [← hcs, State.splitOption, List.takeWhile_append_of_pos hall,
    List.dropWhile_append_of_pos hall]
  simp

/-- The kinds of words, by how they begin. -/
theorem word_cases (w : String) : w = "--" ∨ (∃ name, NamesOption w name) ∨
    (∃ name value, GivesOption w name value) ∨
    (∃ letter rest, w.toList = '-' :: letter :: rest ∧ letter ≠ '-') ∨ IsPlain w := by
  by_cases hplain : IsPlain w
  · exact .inr (.inr (.inr (.inr hplain)))
  simp only [IsPlain, not_forall, not_not] at hplain
  obtain ⟨letter, rest, hw⟩ := hplain
  by_cases hletter : letter = '-'
  swap
  · exact .inr (.inr (.inr (.inl ⟨letter, rest, hw, hletter⟩)))
  subst hletter
  have htext : w = "--" ++ .ofList rest := String.toList_inj.mp (by simp [hw])
  by_cases hsign : '=' ∈ rest
  · obtain ⟨name, value, rfl, hname⟩ := List.eq_append_cons_of_mem hsign
    refine .inr (.inr (.inl ⟨.ofList name, .ofList value, ?_, by simpa using hname⟩))
    rw [htext]
    exact String.toList_inj.mp (by simp)
  · cases rest with
    | nil => exact .inl (by simpa using htext)
    | cons c cs => exact .inr (.inl ⟨.ofList (c :: cs), htext, by simp, by simpa using hsign⟩)

namespace Frame

variable {f g : Frame} {w : String} {e : Effect} {escaped : Bool}

/-- The level that a word leads to. An option that waits for its value takes any word. -/
def leadsTo? (f : Frame) (w : String) : Option Node :=
  if f.awaiting?.isNone then f.node.child? w else none

/-- What a word does at a level, before or behind two dashes. -/
inductive Takes (f : Frame) : Bool → String → Effect → Prop
  | enter {w : String} {n : Node} :
    f.leadsTo? w = some n → w ≠ "help" → f.Takes false w (.enter n)
  | escape : f.leadsTo? "--" = none → f.Takes false "--" .escape
  | option {w name : String} {slot : Slot} {g : Frame} :
    f.leadsTo? w = none → NamesOption w name → f.option? name = some slot →
    f.hold ⟨slot, none⟩ = .ok g → f.Takes false w (.become g)
  | optionWithValue {w name value : String} {slot : Slot} {held g : Frame} :
    f.leadsTo? w = none → GivesOption w name value → f.option? name = some slot →
    f.hold ⟨slot, some value⟩ = .ok held → held.settle = .ok g → f.Takes false w (.become g)
  | value {w : String} {slot : Slot} :
    IsPlain w → f.awaiting? = some slot →
    f.Takes false w (.become { f with pending := some ⟨slot, some w⟩ })
  | operand {escaped : Bool} {w : String} {slot : Slot} {g : Frame} :
    (escaped = false → f.leadsTo? w = none ∧ IsPlain w ∧ f.awaiting? = none) →
    f.node.operand = some slot → f.holds slot = false → f.hold ⟨slot, some w⟩ = .ok g →
    f.Takes escaped w (.become g)

theorem takes_enter_iff {n : Node} : f.Takes escaped w (.enter n) ↔
    escaped = false ∧ f.leadsTo? w = some n ∧ w ≠ "help" := by
  constructor
  · rintro (⟨hlead, hhelp⟩ | _)
    exact ⟨rfl, hlead, hhelp⟩
  · rintro ⟨rfl, hlead, hhelp⟩
    exact .enter hlead hhelp

theorem takes_escape_iff : f.Takes escaped w .escape ↔
    escaped = false ∧ w = "--" ∧ f.leadsTo? "--" = none := by
  constructor
  · rintro (_ | hlead)
    exact ⟨rfl, rfl, hlead⟩
  · rintro ⟨rfl, rfl, hlead⟩
    exact .escape hlead

theorem operand_eq_ok_iff : f.operand escaped w = .ok g ↔
    ∃ slot, f.node.operand = some slot ∧ f.holds slot = false ∧ f.hold ⟨slot, some w⟩ = .ok g := by
  unfold operand
  cases f.node.operand with
  | none =>
    split_ifs <;> simp
  | some slot =>
    cases hholds : f.holds slot <;> simp [hholds]

end Frame

namespace State

variable {s t : State} {w : String} {rest : List String} {e : Effect}

theorem stop_ne_ok {fault : Fault} : s.stop fault ≠ .ok t := by
  intro h
  obtain ⟨f, -, hf⟩ := ok_of_bind h
  cases hf

theorem operand_eq_ok_iff : s.operand w = .ok t ↔ ∃ slot g, s.frame.node.operand = some slot ∧
    s.frame.holds slot = false ∧ s.frame.hold ⟨slot, some w⟩ = .ok g ∧ t = s.withFrame g := by
  rw [operand, map_eq_ok_iff]
  constructor
  · rintro ⟨g, hg, rfl⟩
    obtain ⟨slot, hslot, hholds, hhold⟩ := Frame.operand_eq_ok_iff.mp hg
    exact ⟨slot, g, hslot, hholds, hhold, rfl⟩
  · rintro ⟨slot, g, hslot, hholds, hhold, rfl⟩
    exact ⟨g, Frame.operand_eq_ok_iff.mpr ⟨slot, hslot, hholds, hhold⟩, rfl⟩

theorem option?_of_longOption {word : List Char} (h : s.longOption word = .ok t) :
    ∃ slot, s.frame.option? (splitOption word).1 = some slot := by
  unfold longOption at h
  cases hslot : s.frame.option? (splitOption word).1 with
  | some slot => exact ⟨slot, rfl⟩
  | none =>
    simp only [hslot] at h
    split at h
    · split_ifs at h
      exact absurd h stop_ne_ok
    · cases h

theorem longOption_eq_ok_iff {word : List Char} {name : String} {slot : Slot}
    (hsplit : splitOption word = (name, none)) (hslot : s.frame.option? name = some slot) :
    s.longOption word = .ok t ↔ ∃ g, s.frame.hold ⟨slot, none⟩ = .ok g ∧ t = s.withFrame g := by
  simp only [longOption, hsplit, hslot]
  cases s.frame.hold ⟨slot, none⟩ <;> simp [bind, Except.bind, pure, Except.pure, eq_comm]

theorem longOption_eq_ok_iff_of_value {word : List Char} {name value : String} {slot : Slot}
    (hsplit : splitOption word = (name, some value)) (hslot : s.frame.option? name = some slot) :
    s.longOption word = .ok t ↔ ∃ held g, s.frame.hold ⟨slot, some value⟩ = .ok held ∧
      held.settle = .ok g ∧ t = s.withFrame g := by
  simp only [longOption, hsplit, hslot]
  cases s.frame.hold ⟨slot, some value⟩ with
  | error fault => simp [bind, Except.bind]
  | ok held =>
    cases hheld : held.settle <;> simp [bind, Except.bind, pure, Except.pure, hheld, eq_comm]

theorem word_of_isPlain (h : IsPlain w) : s.word w =
    match s.frame.awaiting? with
    | some slot => .ok (s.withFrame { s.frame with pending := some ⟨slot, some w⟩ })
    | none => s.operand w := by
  unfold word
  split
  next hw => exact absurd hw (h '-' [])
  next name _ hw => exact absurd hw (h '-' name)
  next letter rest _ _ hw => exact absurd hw (h letter rest)
  next => rfl

theorem word_of_toList {c : Char} {cs : List Char} (h : w.toList = '-' :: '-' :: c :: cs) :
    s.word w = s.longOption (c :: cs) := by
  unfold word
  rw [h]
  rfl

/-- A word that is taken in front of two dashes and leads nowhere. -/
theorem exists_takes_of_word (hlead : s.frame.leadsTo? w = none) (h : s.word w = .ok t) :
    ∃ e, s.frame.Takes false w e ∧ t = e.apply s := by
  obtain rfl | ⟨name, hname⟩ | ⟨name, value, hgives⟩ | ⟨letter, rest, hw, hletter⟩ | hplain :=
    word_cases w
  · cases h
    exact ⟨.escape, .escape hlead, rfl⟩
  · obtain ⟨c, cs, hw, hsplit⟩ := hname.exists_split
    rw [word_of_toList hw] at h
    obtain ⟨slot, hslot⟩ := option?_of_longOption h
    rw [hsplit] at hslot
    obtain ⟨g, hg, rfl⟩ := (longOption_eq_ok_iff hsplit hslot).mp h
    exact ⟨.become g, .option hlead hname hslot hg, rfl⟩
  · obtain ⟨c, cs, hw, hsplit⟩ := hgives.exists_split
    rw [word_of_toList hw] at h
    obtain ⟨slot, hslot⟩ := option?_of_longOption h
    rw [hsplit] at hslot
    obtain ⟨held, g, hheld, hg, rfl⟩ := (longOption_eq_ok_iff_of_value hsplit hslot).mp h
    exact ⟨.become g, .optionWithValue hlead hgives hslot hheld hg, rfl⟩
  · have hword : s.word w = s.shortOption letter := by
      unfold word
      rw [hw]
      split
      next heq => exact absurd (List.cons.inj (List.cons.inj heq).2).1 hletter
      next heq => exact absurd (List.cons.inj (List.cons.inj heq).2).1 hletter
      next heq =>
        rw [(List.cons.inj (List.cons.inj heq).2).1]
      next hno => exact absurd rfl (hno letter rest)
    rw [hword, shortOption] at h
    split at h
    · exact absurd h stop_ne_ok
    · cases h
  · rw [word_of_isPlain hplain] at h
    cases hawaits : s.frame.awaiting? with
    | some slot =>
      rw [hawaits] at h
      cases h
      exact ⟨_, .value hplain hawaits, rfl⟩
    | none =>
      rw [hawaits] at h
      obtain ⟨slot, g, hslot, hholds, hhold, rfl⟩ := operand_eq_ok_iff.mp h
      exact ⟨.become g, .operand (fun _ => ⟨hlead, hplain, hawaits⟩) hslot hholds hhold, rfl⟩

/-- Taking a word, by where it stands and where it leads. -/
theorem run_cons : s.run (w :: rest) =
    match if s.afterDashes then none else s.frame.leadsTo? w with
    | some n => if w = "help" then .error (helpOn s.frame.node rest) else (s.enter n).run rest
    | none => (if s.afterDashes then s.operand w else s.word w).bind fun s => s.run rest := by
  have hmay : (if s.mayEnter then s.frame.node.child? w else none) =
      if s.afterDashes then none else s.frame.leadsTo? w := by
    unfold mayEnter Frame.leadsTo?
    cases s.afterDashes <;> simp
  rw [← hmay]
  rfl

theorem exists_takes_of_run (h : s.run (w :: rest) = .ok t) :
    ∃ e, s.frame.Takes s.afterDashes w e ∧ (e.apply s).run rest = .ok t := by
  rw [run_cons] at h
  cases hdashes : s.afterDashes with
  | true =>
    rw [hdashes] at h
    obtain ⟨u, hu, hrest⟩ := ok_of_bind h
    obtain ⟨slot, g, hslot, hholds, hhold, rfl⟩ := operand_eq_ok_iff.mp hu
    exact ⟨.become g, .operand (fun h => nomatch h) hslot hholds hhold, hrest⟩
  | false =>
    rw [hdashes] at h
    cases hlead : s.frame.leadsTo? w with
    | some n =>
      simp only [hlead, Bool.false_eq_true, if_false] at h
      split_ifs at h with hhelp
      exact ⟨.enter n, .enter hlead hhelp, h⟩
    | none =>
      simp only [hlead, Bool.false_eq_true, if_false] at h
      obtain ⟨u, hu, hrest⟩ := ok_of_bind h
      obtain ⟨e, he, rfl⟩ := exists_takes_of_word hlead hu
      exact ⟨e, he, hrest⟩

theorem run_of_word (hdashes : s.afterDashes = false) (hlead : s.frame.leadsTo? w = none)
    (hword : s.word w = .ok t) : s.run (w :: rest) = t.run rest := by
  simp only [run_cons, hdashes, hlead, hword, Bool.false_eq_true, if_false]
  rfl

theorem run_of_takes {escaped : Bool} (hdashes : s.afterDashes = escaped)
    (h : s.frame.Takes escaped w e) : s.run (w :: rest) = (e.apply s).run rest := by
  cases h with
  | enter hlead hhelp =>
    simp only [run_cons, hdashes, hlead, hhelp, Bool.false_eq_true, if_false]
    rfl
  | escape hlead => exact run_of_word hdashes hlead rfl
  | option hlead hname hslot hhold =>
    obtain ⟨c, cs, hw, hsplit⟩ := hname.exists_split
    refine run_of_word hdashes hlead ?_
    rw [word_of_toList hw]
    exact (longOption_eq_ok_iff hsplit hslot).mpr ⟨_, hhold, rfl⟩
  | optionWithValue hlead hgives hslot hhold hsettle =>
    obtain ⟨c, cs, hw, hsplit⟩ := hgives.exists_split
    refine run_of_word hdashes hlead ?_
    rw [word_of_toList hw]
    exact (longOption_eq_ok_iff_of_value hsplit hslot).mpr ⟨_, _, hhold, hsettle, rfl⟩
  | value hplain hawaits =>
    have hlead : s.frame.leadsTo? w = none := by rw [Frame.leadsTo?, hawaits]; rfl
    refine run_of_word hdashes hlead ?_
    rw [word_of_isPlain hplain, hawaits]
    rfl
  | @operand _ _ slot g hplace hslot hholds hhold =>
    have hoperand : s.operand w = .ok (s.withFrame g) :=
      operand_eq_ok_iff.mpr ⟨slot, g, hslot, hholds, hhold, rfl⟩
    cases escaped with
    | true =>
      simp only [run_cons, hdashes, hoperand, if_true]
      rfl
    | false =>
      obtain ⟨hlead, hplain, hawaits⟩ := hplace rfl
      refine run_of_word hdashes hlead ?_
      rw [word_of_isPlain hplain, hawaits]
      exact hoperand

theorem run_append {t : State} {words : List String} (h : s.run words = .ok t)
    (others : List String) : s.run (words ++ others) = t.run others := by
  induction words generalizing s with
  | nil =>
    cases h
    rfl
  | cons w rest ih =>
    obtain ⟨e, he, hrest⟩ := exists_takes_of_run h
    rw [List.cons_append, run_of_takes rfl he]
    exact ih hrest

theorem exists_run_of_append {words others : List String} (h : s.run (words ++ others) = .ok t) :
    ∃ u, s.run words = .ok u ∧ u.run others = .ok t := by
  induction words generalizing s with
  | nil => exact ⟨s, rfl, h⟩
  | cons w rest ih =>
    obtain ⟨e, he, hrest⟩ := exists_takes_of_run h
    rw [run_of_takes rfl he]
    exact ih hrest

end State

end IdentityApi.CommandLine
