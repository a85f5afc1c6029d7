import IdentityApi.Proofs.CommandLine.Inserting

/-! # Common options may stand anywhere

A common option that no word mentions can be given with its value at any place where an option may
stand (`IsOpen`). The result is that of the same words without it, with the value told besides
(`read_insert`); only a value that the option cannot have is refused.
-/
namespace IdentityApi.CommandLine

open Json (ok_of_bind bind_eq_ok_iff)

variable {x : String × Argument} {slot : Slot} {v : Argument} {name w text : String}
  {words before after : List String} {s t : State}

/-! ## The end of a run -/

namespace State

theorem mapM_settle_eq_ok_iff {l m : List Frame} :
    l.mapM Frame.settle = .ok m ↔ List.Forall₂ Frame.Settles l m := by
  induction l generalizing m with
  | nil =>
    rw [List.mapM_nil, List.forall₂_nil_left_iff]
    exact ⟨fun h => (Except.ok.inj h).symm, fun h => h ▸ rfl⟩
  | cons f l ih =>
    simp only [List.mapM_cons, bind_eq_ok_iff, Frame.settle_eq_ok_iff, ih,
      List.forall₂_cons_left_iff]
    constructor
    · rintro ⟨e, he, es, hes, hm⟩
      exact ⟨e, es, he, hes, (Except.ok.inj hm).symm⟩
    · rintro ⟨e, es, he, hes, rfl⟩
      exact ⟨e, he, es, hes, rfl⟩

theorem finish_eq_ok_iff {i : Invocation} : s.finish = .ok i ↔
    ∃ f fs, List.Forall₂ Frame.Settles s.levels (f :: fs) ∧ f.command = .ok i.command ∧
      i.url = ((f :: fs).map Frame.given).findSome? (·.text? "url") ∧
      i.logFormat = ((f :: fs).map Frame.given).findSome? (·.format? "log-format") := by
  unfold finish levels
  simp only [bind_eq_ok_iff, Frame.settle_eq_ok_iff, mapM_settle_eq_ok_iff, List.forall₂_cons]
  constructor
  · rintro ⟨f, hf, c, hc, fs, hfs, h⟩
    cases h
    exact ⟨f, fs, ⟨hf, hfs⟩, hc, rfl, rfl⟩
  · rintro ⟨f, fs, ⟨hf, hfs⟩, hc, hurl, hformat⟩
    refine ⟨f, hf, i.command, hc, fs, hfs, ?_⟩
    rw [← hurl, ← hformat]
    rfl

end State

section Levels

variable {l m : List Frame} {β : Type} {get : Arguments → Option β}

theorem AtOne.settles (h : AtOne (Frame.Extends x) l m) (hfree : ∀ f ∈ l, f.IsFree x.1)
    {es : List Frame} (hes : List.Forall₂ Frame.Settles l es) :
    ∃ es', List.Forall₂ Frame.Settles m es' ∧ AtOne (Frame.Inserts x) es es' := by
  induction h generalizing es with
  | here l hext =>
    obtain ⟨e, es, he, hes', rfl⟩ := List.forall₂_cons_left_iff.mp hes
    obtain ⟨e', he', hins⟩ := hext.settles (hfree _ List.mem_cons_self) he
    exact ⟨e' :: es, .cons he' hes', .here es hins⟩
  | there f _ ih =>
    obtain ⟨e, es, he, hrest, rfl⟩ := List.forall₂_cons_left_iff.mp hes
    obtain ⟨es', hes', hat⟩ := ih (fun f hf => hfree f (List.mem_cons_of_mem _ hf)) hrest
    exact ⟨e :: es', .cons he hes', .there e hat⟩

/-- What is looked up under another name is found as before. -/
theorem AtOne.findSome?_of_ne (h : AtOne (Frame.Inserts x) l m) (hname : name ≠ x.1)
    (hget : ∀ a b : Arguments, a.lookup name = b.lookup name → get a = get b) :
    (m.map Frame.given).findSome? get = (l.map Frame.given).findSome? get := by
  induction h with
  | here l hins =>
    rw [List.map_cons, List.map_cons, List.findSome?_cons, List.findSome?_cons,
      hget _ _ (hins.lookup_of_ne hname)]
  | there f _ ih => rw [List.map_cons, List.map_cons, List.findSome?_cons, List.findSome?_cons, ih]

/-- The one more value is found if there is no other of its name. -/
theorem AtOne.findSome?_told (h : AtOne (Frame.Inserts x) l m) (hfree : ∀ f ∈ l, f.IsFree x.1)
    {b : β} (hnone : ∀ a : Arguments, a.lookup x.1 = none → get a = none)
    (htold : ∀ a : Arguments, a.lookup x.1 = some x.2 → get a = some b) :
    (m.map Frame.given).findSome? get = some b := by
  induction h with
  | here l hins =>
    rw [List.map_cons, List.findSome?_cons,
      htold _ (hins.lookup_told (hfree _ List.mem_cons_self))]
  | there f _ ih =>
    obtain ⟨hf, hfree⟩ := List.forall_mem_cons.mp hfree
    rw [List.map_cons, List.findSome?_cons, hnone _ hf.lookup_given, ih hfree]

end Levels

theorem Arguments.text?_congr {a b : Arguments} (h : a.lookup name = b.lookup name) :
    a.text? name = b.text? name := by
  rw [text?, h, text?]

theorem Arguments.format?_congr {a b : Arguments} (h : a.lookup name = b.lookup name) :
    a.format? name = b.format? name := by
  rw [format?, h, format?]

/-- What is asked for with the value of a common option besides. -/
def Invocation.told (i : Invocation) : Argument → Invocation
  | .text u => { i with url := some u }
  | .format f => { i with logFormat := some f }
  | _ => i

/-- Two texts that differ in the case of ASCII letters at most. -/
def EqualsIgnoringCase (s t : String) : Prop :=
  s.toList.map Char.toLower = t.toList.map Char.toLower

inductive NamesFormat : Log.Format → String → Prop
  | json {s : String} : EqualsIgnoringCase s "json" → NamesFormat .json s
  | pretty {s : String} : EqualsIgnoringCase s "pretty" → NamesFormat .pretty s

instance (s t : String) : Decidable (EqualsIgnoringCase s t) :=
  inferInstanceAs (Decidable (_ = _))

theorem ofList_lower_eq_iff {t : String} (ht : t.toList.map Char.toLower = t.toList) :
    String.ofList (text.toList.map Char.toLower) = t ↔ EqualsIgnoringCase text t := by
  rw [EqualsIgnoringCase, ht, String.ofList_eq]

theorem readFormat_of_namesFormat {form : Log.Format} (h : NamesFormat form text) :
    readFormat text = .ok (.format form) := by
  simp only [readFormat, ofList_lower_eq_iff (t := "json") (by decide),
    ofList_lower_eq_iff (t := "pretty") (by decide)]
  cases h with
  | json hjson => rw [if_pos hjson]
  | pretty hpretty =>
    have hno : ¬ EqualsIgnoringCase text "json" :=
      fun hjson => absurd (hjson.symm.trans hpretty) (by decide)
    rw [if_neg hno, if_pos hpretty]

theorem readFormat_of_forall_not (h : ∀ form, ¬ NamesFormat form text) :
    readFormat text = .error .invalidValue := by
  simp only [readFormat, ofList_lower_eq_iff (t := "json") (by decide),
    ofList_lower_eq_iff (t := "pretty") (by decide)]
  rw [if_neg fun hjson => h _ (.json hjson), if_neg fun hpretty => h _ (.pretty hpretty)]

theorem exists_format_of_read (h : Kind.format.read text = .ok v) : ∃ form, v = .format form := by
  by_cases hnames : ∃ form, NamesFormat form text
  · obtain ⟨form, hform⟩ := hnames
    exact ⟨form, Except.ok.inj (h.symm.trans (readFormat_of_namesFormat hform))⟩
  · cases h.symm.trans (readFormat_of_forall_not (not_exists.mp hnames))

namespace State

theorem Extends.finish {i : Invocation} (h : Extends (slot.name, v) s t)
    (hslot : slot ∈ Node.common) (hs : s.IsFree slot.name) (hv : slot.kind.read text = .ok v)
    (hi : s.finish = .ok i) : t.finish = .ok (i.told v) := by
  obtain ⟨f, fs, hsettles, hcommand, hurl, hformat⟩ := finish_eq_ok_iff.mp hi
  have hfree := Frame.IsFree.of_settles hs hsettles
  obtain ⟨es, hsettles', hat⟩ := h.levels.settles hs hsettles
  obtain ⟨g, gs, -, -, rfl⟩ := List.forall₂_cons_left_iff.mp hsettles'
  have hcommand' : g.command = .ok i.command := by
    obtain ⟨hins, -⟩ | ⟨rfl, -⟩ := atOne_cons_iff.mp hat
    · exact hins.command (hfree f List.mem_cons_self).sound (List.mem_map_of_mem hslot) hcommand
    · exact hcommand
  obtain rfl | rfl : slot = ⟨"url", .text⟩ ∨ slot = ⟨"log-format", .format⟩ := by
    simpa [Node.common] using hslot
  · cases hv
    have hformat' := hat.findSome?_of_ne (by decide : "log-format" ≠ "url")
      fun _ _ => Arguments.format?_congr
    have hurl' := hat.findSome?_told hfree (b := text)
      (fun a ha => show a.text? "url" = none by rw [Arguments.text?, ha])
      (fun a ha => by rw [Arguments.text?, ha])
    exact finish_eq_ok_iff.mpr
      ⟨g, gs, hsettles', hcommand', hurl'.symm, hformat.trans hformat'.symm⟩
  · obtain ⟨form, rfl⟩ := exists_format_of_read hv
    have hurl' := hat.findSome?_of_ne (by decide : "url" ≠ "log-format")
      fun _ _ => Arguments.text?_congr
    have hformat' := hat.findSome?_told hfree (b := form)
      (fun a ha => show a.format? "log-format" = none by rw [Arguments.format?, ha])
      (fun a ha => by rw [Arguments.format?, ha])
    exact finish_eq_ok_iff.mpr
      ⟨g, gs, hsettles', hcommand', hurl.trans hurl'.symm, hformat'.symm⟩

end State

/-! ## Places for options -/

theorem Frame.exists_settles {l m : List Frame} (h : List.Forall₂ Frame.Settles l m) :
    ∀ f ∈ l, ∃ e, f.Settles e := by
  induction h with
  | nil => exact List.forall_mem_nil _
  | cons hsettles _ ih => exact List.forall_mem_cons.mpr ⟨⟨_, hsettles⟩, ih⟩

theorem Frame.Takes.settles {f g : Frame} {escaped : Bool} (h : f.Takes escaped w (.become g))
    (hf : f.awaiting? = none) : ∃ e, f.Settles e := by
  cases h with
  | option _ _ _ hhold | optionWithValue _ _ _ hhold | operand _ _ _ hhold =>
    obtain ⟨e, he, -⟩ := Frame.hold_eq_ok_iff.mp hhold
    exact ⟨e, he⟩
  | value _ hawaits =>
    rw [hf] at hawaits
    cases hawaits

theorem Frame.Takes.awaiting? {f g : Frame} {escaped : Bool} (h : f.Takes escaped w (.become g))
    (hw : ∀ name, ¬ NamesOption w name) : g.awaiting? = none := by
  cases h with
  | option _ hname => exact absurd hname (hw _)
  | optionWithValue _ _ _ _ hsettle =>
    rw [Frame.awaiting?, (Frame.settle_eq_ok_iff.mp hsettle).pending]
  | value => rfl
  | operand _ _ _ hhold =>
    obtain ⟨e, he, rfl⟩ := Frame.hold_eq_ok_iff.mp hhold
    rfl

/-- Behind these words an option may stand: there are no two dashes among them, and the last is not
an option that waits for its value. -/
structure IsOpen (before : List String) : Prop where
  noDashes : "--" ∉ before
  noName : ∀ w ∈ before.getLast?, ∀ name, ¬ NamesOption w name

namespace State

/-- If all levels can be finished in the end, all values before can be checked. -/
theorem settles_of_run (hrun : s.run words = .ok t) (ht : ∀ f ∈ t.levels, ∃ e, f.Settles e) :
    ∀ f ∈ s.levels, f.awaiting? = none → ∃ e, f.Settles e := by
  induction words generalizing s with
  | nil =>
    cases hrun
    exact fun f hf _ => ht f hf
  | cons w rest ih =>
    obtain ⟨e, he, hrest⟩ := exists_takes_of_run hrun
    have hlater := ih hrest
    cases e with
    | enter n => exact (List.forall_mem_cons.mp hlater).2
    | become g =>
      exact List.forall_mem_cons.mpr ⟨he.settles, (List.forall_mem_cons.mp hlater).2⟩
    | escape => exact hlater

theorem afterDashes_of_run (hs : s.afterDashes = false) (hno : "--" ∉ words)
    (hrun : s.run words = .ok t) : t.afterDashes = false := by
  induction words generalizing s with
  | nil =>
    cases hrun
    exact hs
  | cons w rest ih =>
    obtain ⟨hw, hno⟩ := not_or.mp (mt List.mem_cons.mpr hno)
    obtain ⟨e, he, hrest⟩ := exists_takes_of_run hrun
    refine ih ?_ hno hrest
    cases e with
    | enter n => exact hs
    | become g => exact hs
    | escape => exact absurd (Frame.takes_escape_iff.mp he).2.1.symm hw

theorem awaiting?_of_run (hopen : IsOpen before)
    (hrun : start.run before = .ok s) : s.frame.awaiting? = none := by
  obtain rfl | ⟨front, w, rfl⟩ := List.eq_nil_or_concat' before
  · cases hrun
    rfl
  · obtain ⟨u, hu, hw⟩ := exists_run_of_append hrun
    obtain ⟨e, he, hs⟩ := exists_takes_of_run hw
    cases hs
    cases e with
    | enter n => rfl
    | become g => exact he.awaiting? (hopen.noName w (by simp))
    | escape =>
      obtain rfl := (Frame.takes_escape_iff.mp he).2.1
      exact absurd (by simp) hopen.noDashes

/-- A value that a common option cannot have is told where it is given. -/
theorem run_of_invalid {fault : Fault} (hdashes : s.afterDashes = false)
    (hslot : slot ∈ Node.common) (hsound : s.frame.node.IsSound) {e : Frame}
    (he : s.frame.Settles e) (hfree : s.frame.IsFree slot.name)
    (hw : GivesOption w slot.name text) (hv : slot.kind.read text = .error fault) :
    s.run (w :: words) = .error fault := by
  obtain ⟨c, cs, hchars, hsplit⟩ := hw.exists_split
  have hlead : s.frame.leadsTo? w = none := Frame.leadsTo?_of_dash hsound (by rw [hchars]; rfl)
  have hhold : s.frame.hold ⟨slot, some text⟩ = .ok { e with pending := some ⟨slot, some text⟩ } :=
    Frame.hold_eq_ok_iff.mpr ⟨e, he, rfl⟩
  have hgiven := Frame.any_given_eq_false_iff.mpr (hfree.settle he).given
  have hsettle : Frame.settle { e with pending := some ⟨slot, some text⟩ } = .error fault := by
    simp only [Frame.settle, hgiven, hv, Bool.false_eq_true, if_false]
    rfl
  have hword : s.word w = .error fault := by
    simp only [word_of_toList hchars, longOption, hsplit, Frame.option?_common hsound hslot, hhold,
      Option.isSome_some, if_true, bind, Except.bind, hsettle]
  simp only [run_cons, hdashes, hlead, hword, Bool.false_eq_true, if_false]
  rfl

end State

/-! ## The whole command line -/

theorem lacks_append (hno : "--" ∉ before) (h : Lacks name (before ++ after)) :
    Lacks name before ∧ Lacks name after := by
  have hall : ∀ w ∈ before, decide (w ≠ "--") = true :=
    fun w hw => decide_eq_true (ne_of_mem_of_not_mem hw hno)
  rw [Lacks, List.takeWhile_append_of_pos hall, List.forall_mem_append] at h
  rw [Lacks, List.takeWhile_eq_self_iff.mpr hall]
  exact h

/-- One more word that gives the value of a common option. -/
theorem read_insert {i : Invocation} (hslot : slot ∈ Node.common)
    (hread : read (before ++ after) = .ok i) (hopen : IsOpen before)
    (hlacks : Lacks slot.name (before ++ after)) (hw : GivesOption w slot.name text) :
    read (before ++ w :: after) = (slot.kind.read text).map i.told := by
  obtain ⟨hlacks, hlacks'⟩ := lacks_append hopen.noDashes hlacks
  obtain ⟨u, hrun, hfinish⟩ := ok_of_bind hread
  obtain ⟨s, hbefore, hafter⟩ := State.exists_run_of_append hrun
  have hfree : s.IsFree slot.name := (State.isFree_start _).run hslot (fun _ => hlacks) hbefore
  have hdashes : s.afterDashes = false := State.afterDashes_of_run rfl hopen.noDashes hbefore
  obtain ⟨e, he⟩ : ∃ e, s.frame.Settles e := by
    obtain ⟨f, fs, hsettles, -⟩ := State.finish_eq_ok_iff.mp hfinish
    exact State.settles_of_run hafter (Frame.exists_settles hsettles) s.frame List.mem_cons_self
      (State.awaiting?_of_run hopen hbefore)
  rw [read, State.run_append hbefore]
  cases hv : slot.kind.read text with
  | error fault =>
    rw [State.run_of_invalid hdashes hslot hfree.frame.sound he hfree.frame hw hv]
    rfl
  | ok v =>
    obtain ⟨g, hg, hext⟩ := Frame.exists_takes_of_givesOption hslot hfree.frame he hw hv
    have htwins : State.Extends (slot.name, v) s (s.withFrame g) := ⟨.here s.outer hext, rfl⟩
    obtain ⟨u', hrun', hext'⟩ := htwins.run hslot hfree (fun _ => hlacks') hafter
    rw [State.run_of_takes hdashes hg]
    refine bind_eq_ok_iff.mpr ⟨u', hrun', ?_⟩
    exact hext'.finish hslot (hfree.run hslot (fun _ => hlacks') hafter) hv hfinish

/-- A base URL and a form of the log can be given wherever an option may stand. They are told
besides all that is asked for without them; only a form that does not exist is refused. -/
theorem common_options_stand_anywhere {i : Invocation} (hread : read (before ++ after) = .ok i)
    (hopen : IsOpen before) :
    (Lacks "url" (before ++ after) →
      ∀ url, read (before ++ ("--url=" ++ url) :: after) = .ok { i with url := some url }) ∧
    (Lacks "log-format" (before ++ after) → ∀ word,
      (∀ form, NamesFormat form word →
        read (before ++ ("--log-format=" ++ word) :: after) =
          .ok { i with logFormat := some form }) ∧
      ((∀ form, ¬ NamesFormat form word) →
        read (before ++ ("--log-format=" ++ word) :: after) = .error .invalidValue)) := by
  constructor
  · intro hlacks url
    have hslot : ⟨"url", .text⟩ ∈ Node.common := List.mem_cons_self
    exact read_insert hslot hread hopen hlacks
      ⟨congrArg (· ++ url) (by decide : "--url=" = "--" ++ "url" ++ "="), by decide⟩
  · intro hlacks word
    have hslot : ⟨"log-format", .format⟩ ∈ Node.common := by decide
    have hinsert := read_insert hslot hread hopen hlacks
      ⟨congrArg (· ++ word) (by decide : "--log-format=" = "--" ++ "log-format" ++ "="), by decide⟩
    rw [hinsert]
    constructor
    · intro form hform
      rw [Kind.read, readFormat_of_namesFormat hform]
      rfl
    · intro hnone
      rw [Kind.read, readFormat_of_forall_not hnone]
      rfl

/-- Behind a value that is not checked yet and in front of two dashes, behind which the name of the
option is an argument like any other. -/
theorem options_stand_in_front_of_dashes :
    read ["apps", "check-access", "--user", "7", "--url=u", "--", "--url"] =
        .ok ⟨some "u", none, .checkAccess "--url" 7⟩ ∧
      read ["apps", "check-access", "--user", "7", "--log-format=JSON", "--", "--url"] =
        .ok ⟨none, some .json, .checkAccess "--url" 7⟩ := by
  have hread : read (["apps", "check-access", "--user", "7"] ++ ["--", "--url"]) =
      .ok ⟨none, none, .checkAccess "--url" 7⟩ := by
    decide
  have hopen : IsOpen ["apps", "check-access", "--user", "7"] := by
    refine ⟨by decide, ?_⟩
    intro w hw name hname
    obtain rfl : "7" = w := Option.mem_some_iff.mp hw
    obtain ⟨c, cs, hchars, -⟩ := hname.exists_split
    cases hchars
  have hlacks : ∀ name ∈ ["url", "log-format"],
      Lacks name (["apps", "check-access", "--user", "7"] ++ ["--", "--url"]) := by
    have hprefix : ∀ name ∈ ["url", "log-format"], ∀ w ∈ ["apps", "check-access", "--user", "7"],
        ¬ ("--" ++ name).toList <+: w.toList := by
      decide
    exact fun name hname w hw hmention => hprefix name hname w hw hmention.isPrefix
  obtain ⟨hurl, hformat⟩ := common_options_stand_anywhere hread hopen
  exact ⟨hurl (hlacks _ (by decide)) "u",
    (hformat (hlacks _ (by decide)) "JSON").1 .json (.json (by decide))⟩

end IdentityApi.CommandLine
