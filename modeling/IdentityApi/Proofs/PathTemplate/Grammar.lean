import IdentityApi.Proofs.PathTemplate.Filling

/-! # The grammar of templates

A template is made of placeholders, each behind a literal, and a last literal. Scanning finds this
cut or a stray brace (`scan_eq_iff`), filling gives each placeholder its value (`fill_eq_ok_iff`),
and what is left over is looked for at the end (`firstUnused_eq_none_iff`). So a path is made
exactly when the values are those of the placeholders, one for each and none refused
(`render_eq_ok_iff`).
-/
namespace IdentityApi.PathTemplate

/-! ## Cuts of a template -/

/-- Placeholders with the literals before them, and the last literal, as they are written. -/
def written (slots : List (List Char × List Char)) (last : List Char) : List Char :=
  slots.flatMap (fun p => p.1 ++ '{' :: (p.2 ++ ['}'])) ++ last

/-- A text is cut into placeholders and literals. -/
structure IsCut (s : List Char) (slots : List (List Char × List Char)) (last : List Char) :
    Prop where
  text : s = written slots last
  literal : ∀ p ∈ slots, IsLiteral p.1
  name : ∀ p ∈ slots, '}' ∉ p.2
  last : IsLiteral last

theorem written_cons (p : List Char × List Char) (slots : List (List Char × List Char))
    (last : List Char) :
    written (p :: slots) last = p.1 ++ '{' :: (p.2 ++ '}' :: written slots last) := by
  simp [written]

/-! ## Scanning -/

/-- What stands before the first brace goes to the front of the first literal. -/
theorem scan_literal {s : List Char} (h : IsLiteral s) (r : List Char) :
    scan (s ++ r) = s.foldr Scan.consLiteral (scan r) := by
  induction s with
  | nil => rfl
  | cons c s ih =>
    obtain ⟨ho, hc, hs⟩ := h.of_cons
    rw [List.cons_append, scan.eq_4 c _ ho hc, ih hs, List.foldr_cons]

theorem foldr_consLiteral_slot (s literal n : List Char) (slots : List (List Char × List Char))
    (ending : Except Fault (List Char)) :
    s.foldr Scan.consLiteral ⟨(literal, n) :: slots, ending⟩ =
      ⟨(s ++ literal, n) :: slots, ending⟩ := by
  induction s with
  | nil => rfl
  | cons c s ih => rw [List.foldr_cons, ih]; rfl

theorem foldr_consLiteral_last (s last : List Char) :
    s.foldr Scan.consLiteral ⟨[], .ok last⟩ = ⟨[], .ok (s ++ last)⟩ := by
  induction s with
  | nil => rfl
  | cons c s ih => rw [List.foldr_cons, ih]; rfl

/-- A text that is cut scans to its cut. -/
theorem IsCut.scan_eq {s last : List Char} {slots : List (List Char × List Char)}
    (h : IsCut s slots last) : scan s = ⟨slots, .ok last⟩ := by
  obtain ⟨rfl, hliteral, hname, hlast⟩ := h
  induction slots with
  | nil =>
    have hscan := scan_literal hlast []
    rw [List.append_nil] at hscan
    rw [written, List.flatMap_nil, List.nil_append, hscan, scan, foldr_consLiteral_last,
      List.append_nil]
  | cons p slots ih =>
    rw [List.forall_mem_cons] at hliteral hname
    have hn : ∀ c ∈ p.2, c ≠ '}' := by
      rintro c hc rfl
      exact hname.1 hc
    rw [written_cons, scan_literal hliteral.1, scan.eq_2, scanName_append hn,
      ih hliteral.2 hname.2, foldr_consLiteral_slot, List.append_nil]

/-- One more character in front of a text that is cut, and of its first literal. -/
theorem IsCut.consLiteral {c : Char} (ho : c ≠ '{') (hc : c ≠ '}') {s : List Char} {t : Scan}
    (h : ∀ last, t.ending = .ok last → IsCut s t.slots last) {last : List Char}
    (hlast : (t.consLiteral c).ending = .ok last) :
    IsCut (c :: s) (t.consLiteral c).slots last := by
  obtain ⟨slots, ending⟩ := t
  cases slots with
  | nil =>
    cases ending with
    | error fault => cases hlast
    | ok l =>
      cases hlast
      obtain ⟨htext, hliteral, hname, hl⟩ := h l rfl
      exact ⟨congrArg (c :: ·) htext, hliteral, hname, hl.cons ho hc⟩
  | cons p slots =>
    obtain ⟨htext, hliteral, hname, hl⟩ := h last hlast
    rw [List.forall_mem_cons] at hliteral hname
    refine ⟨congrArg (c :: ·) htext, ?_, ?_, hl⟩
    · exact List.forall_mem_cons.mpr ⟨hliteral.1.cons ho hc, hliteral.2⟩
    · exact List.forall_mem_cons.mpr hname

/-- One more character behind the opening brace of a text that is cut, and of its first name. -/
theorem IsCut.consName {c : Char} (hc : c ≠ '}') {s : List Char} {t : Scan} {last n : List Char}
    {slots : List (List Char × List Char)} (ht : t.slots = ([], n) :: slots)
    (h : IsCut ('{' :: s) t.slots last) : IsCut ('{' :: c :: s) (t.consName c).slots last := by
  obtain ⟨htext, hliteral, hname, hl⟩ := h
  obtain ⟨_, ending⟩ := t
  cases ht
  rw [List.forall_mem_cons] at hliteral hname
  rw [written_cons, List.nil_append, List.cons.injEq] at htext
  refine ⟨?_, ?_, ?_, hl⟩
  · simp [Scan.consName, written_cons, htext.2]
  · exact List.forall_mem_cons.mpr hliteral
  · refine List.forall_mem_cons.mpr ⟨?_, hname.2⟩
    simp [Ne.symm hc, hname.1]

/-- A scan that comes to the end of a text has cut it. Inside braces the text is cut together with
the opening brace, and its first placeholder has no literal. -/
theorem isCut_of_scan (s : List Char) :
    (∀ last, (scan s).ending = .ok last → IsCut s (scan s).slots last) ∧
      ∀ last, (scanName s).ending = .ok last →
        IsCut ('{' :: s) (scanName s).slots last ∧
          ∃ n slots, (scanName s).slots = ([], n) :: slots := by
  induction s with
  | nil =>
    constructor
    · intro last h
      cases h
      exact ⟨rfl, by simp [scan], by simp [scan], .nil⟩
    · intro last h
      cases h
  | cons c s ih =>
    obtain ⟨ihscan, ihname⟩ := ih
    constructor
    · intro last h
      by_cases ho : c = '{'
      · subst ho
        rw [scan.eq_2] at h ⊢
        exact (ihname last h).1
      · by_cases hc : c = '}'
        · subst hc
          cases h
        · rw [scan.eq_4 c s ho hc] at h ⊢
          exact IsCut.consLiteral ho hc ihscan h
    · intro last h
      by_cases hc : c = '}'
      · subst hc
        obtain ⟨htext, hliteral, hname, hl⟩ := ihscan last h
        refine ⟨⟨?_, ?_, ?_, hl⟩, [], (scan s).slots, rfl⟩
        · rw [scanName.eq_2, written_cons, ← htext]
          rfl
        · exact List.forall_mem_cons.mpr ⟨.nil, hliteral⟩
        · exact List.forall_mem_cons.mpr ⟨List.not_mem_nil, hname⟩
      · rw [scanName.eq_3 c s hc] at h ⊢
        have hending : (scanName s).ending = .ok last := by
          unfold Scan.consName at h
          split at h <;> exact h
        obtain ⟨hcut, n, slots, hslots⟩ := ihname last hending
        refine ⟨hcut.consName hc hslots, c :: n, slots, ?_⟩
        simp [Scan.consName, hslots]

/-- Scanning cuts a text if it can be cut, and then in the only way there is. -/
theorem scan_eq_iff {s last : List Char} {slots : List (List Char × List Char)} :
    scan s = ⟨slots, .ok last⟩ ↔ IsCut s slots last := by
  constructor
  · intro h
    have hcut := (isCut_of_scan s).1 last (by rw [h])
    rwa [h] at hcut
  · exact IsCut.scan_eq

/-! ## Filling -/

/-- A placeholder with the literal before it and the value that takes its place. -/
structure Slot where
  literal : List Char
  name : String
  value : String

namespace Slot

def cut (s : Slot) : List Char × List Char := (s.literal, s.name.toList)

def given (s : Slot) : String × String := (s.name, s.value)

/-- Each octet of a value stands for itself or in a triple. -/
def text (s : Slot) : List Char := s.literal ++ (octetsOf s.value).flatMap Percent.escapeOctet

end Slot

theorem map_fst_given (slots : List Slot) :
    (slots.map Slot.given).map Prod.fst = slots.map Slot.name := by
  rw [List.map_map]
  rfl

/-- Literals and values, and the last literal. -/
def filledWith (slots : List Slot) (last : List Char) : List Char := slots.flatMap Slot.text ++ last

variable {values : List (String × String)} {seen : List String} {slots : List Slot}

/-- The values of the slots are those that filling finds and takes; `seen` holds the names used
before. -/
structure IsFillable (values : List (String × String)) (seen : List String) (slots : List Slot) :
    Prop where
  given : ∀ s ∈ slots, values.lookup s.name = some s.value
  kept : ∀ s ∈ slots, isRefused s.value = false
  distinct : (slots.map Slot.name).Nodup
  fresh : ∀ s ∈ slots, s.name ∉ seen

theorem isFillable_nil : IsFillable values seen [] :=
  ⟨by simp, by simp, by simp, by simp⟩

theorem isFillable_cons_iff {s : Slot} :
    IsFillable values seen (s :: slots) ↔
      values.lookup s.name = some s.value ∧ s.name ∉ seen ∧ isRefused s.value = false ∧
        IsFillable values (s.name :: seen) slots := by
  constructor
  · rintro ⟨hgiven, hkept, hdistinct, hfresh⟩
    rw [List.forall_mem_cons] at hgiven hkept hfresh
    rw [List.map_cons, List.nodup_cons] at hdistinct
    refine ⟨hgiven.1, hfresh.1, hkept.1, hgiven.2, hkept.2, hdistinct.2, ?_⟩
    intro t ht hmem
    rcases List.mem_cons.mp hmem with heq | hmem
    · exact hdistinct.1 (heq ▸ List.mem_map_of_mem ht)
    · exact hfresh.2 t ht hmem
  · rintro ⟨hlookup, hseen, href, hgiven, hkept, hdistinct, hfresh⟩
    refine ⟨?_, ?_, ?_, ?_⟩
    · exact List.forall_mem_cons.mpr ⟨hlookup, hgiven⟩
    · exact List.forall_mem_cons.mpr ⟨href, hkept⟩
    · rw [List.map_cons, List.nodup_cons]
      refine ⟨?_, hdistinct⟩
      intro hmem
      obtain ⟨t, ht, heq⟩ := List.mem_map.mp hmem
      exact hfresh t ht (heq ▸ List.mem_cons_self)
    · refine List.forall_mem_cons.mpr ⟨hseen, ?_⟩
      intro t ht hmem
      exact hfresh t ht (List.mem_cons_of_mem s.name hmem)

/-- Slots that can be filled are filled one by one. -/
theorem IsFillable.fill_eq (h : IsFillable values seen slots) (last : List Char) :
    fill values (.ok last) (slots.map Slot.cut) seen =
      .ok (filledWith slots last, (slots.map Slot.name).reverse ++ seen) := by
  induction slots generalizing seen with
  | nil => rfl
  | cons s slots ih =>
    obtain ⟨hlookup, hseen, href, hrest⟩ := isFillable_cons_iff.mp h
    have hname : String.ofList s.name.toList = s.name := String.ofList_toList
    have hcut : s.cut = (s.literal, s.name.toList) := rfl
    rw [List.map_cons, hcut, fill]
    simp only [hname, hlookup, if_neg hseen, href, Bool.false_eq_true, if_false, ih hrest]
    simp [Except.map, filledWith, Slot.text, Percent.encode_isUnreserved, octetsOf]

/-- A placeholder that is filled has a value of its own, and the rest is filled as well. -/
theorem fill_cons_ok {literal n : List Char} {cuts : List (List Char × List Char)}
    {ending : Except Fault (List Char)} {out : List Char × List String}
    (h : fill values ending ((literal, n) :: cuts) seen = .ok out) :
    ∃ value rest, values.lookup (String.ofList n) = some value ∧ String.ofList n ∉ seen ∧
      isRefused value = false ∧ fill values ending cuts (String.ofList n :: seen) = .ok rest := by
  rw [fill] at h
  cases hlookup : values.lookup (String.ofList n) with
  | none =>
    rw [hlookup] at h
    cases h
  | some value =>
    rw [hlookup] at h
    dsimp only at h
    split_ifs at h with hseen href
    cases hrest : fill values ending cuts (String.ofList n :: seen) with
    | error fault =>
      rw [hrest] at h
      cases h
    | ok rest => exact ⟨value, rest, rfl, hseen, by simpa using href, rfl⟩

/-- What was filled was scanned to its end, and its values are those of slots. -/
theorem exists_slots_of_fill {cuts : List (List Char × List Char)}
    {ending : Except Fault (List Char)} {out : List Char × List String}
    (h : fill values ending cuts seen = .ok out) :
    (∃ last, ending = .ok last) ∧
      ∃ slots : List Slot, slots.map Slot.cut = cuts ∧ IsFillable values seen slots := by
  induction cuts generalizing seen out with
  | nil =>
    refine ⟨?_, [], rfl, isFillable_nil⟩
    cases ending with
    | error fault => cases h
    | ok last => exact ⟨last, rfl⟩
  | cons p cuts ih =>
    obtain ⟨literal, n⟩ := p
    obtain ⟨value, rest, hlookup, hseen, href, hrest⟩ := fill_cons_ok h
    obtain ⟨hending, slots, hcuts, hfill⟩ := ih hrest
    refine ⟨hending, ⟨literal, String.ofList n, value⟩ :: slots, ?_, ?_⟩
    · simp [Slot.cut, ← hcuts]
    · exact isFillable_cons_iff.mpr ⟨hlookup, hseen, href, hfill⟩

/-- Filling succeeds for slots that can be filled. -/
theorem fill_eq_ok_iff {cuts : List (List Char × List Char)} {last text : List Char}
    {used : List String} :
    fill values (.ok last) cuts seen = .ok (text, used) ↔
      ∃ slots : List Slot, slots.map Slot.cut = cuts ∧ IsFillable values seen slots ∧
        text = filledWith slots last ∧ used = (slots.map Slot.name).reverse ++ seen := by
  constructor
  · intro h
    obtain ⟨-, slots, rfl, hfill⟩ := exists_slots_of_fill h
    rw [hfill.fill_eq last, Except.ok.injEq, Prod.mk.injEq] at h
    exact ⟨slots, rfl, hfill, h.1.symm, h.2.symm⟩
  · rintro ⟨slots, rfl, hfill, rfl, rfl⟩
    exact hfill.fill_eq last

/-! ## Paths -/

/-- The values are used up by slots that can be filled if they are the values of the slots. -/
theorem isFillable_and_used_iff :
    IsFillable values [] slots ∧ firstUnused (slots.map Slot.name).reverse values = none ↔
      (slots.map Slot.name).Nodup ∧ (∀ s ∈ slots, isRefused s.value = false) ∧
        (slots.map Slot.given).Perm values := by
  rw [firstUnused_eq_none_iff]
  constructor
  · rintro ⟨⟨hgiven, hkept, hdistinct, -⟩, hused⟩
    refine ⟨hdistinct, hkept, ?_⟩
    have hsub : (slots.map Slot.given).Subperm values := by
      refine List.subperm_of_subset ?_ ?_
      · rw [← map_fst_given] at hdistinct
        exact hdistinct.of_map Prod.fst
      · intro e he
        obtain ⟨s, hs, rfl⟩ := List.mem_map.mp he
        exact mem_of_lookup (hgiven s hs)
    have hlength := hused.length_le
    refine hsub.perm_of_length_le ?_
    simpa using hlength
  · rintro ⟨hdistinct, hkept, hperm⟩
    have hfst := hperm.map Prod.fst
    rw [map_fst_given] at hfst
    refine ⟨⟨?_, hkept, hdistinct, by simp⟩, ?_⟩
    · intro s hs
      have hmem : s.given ∈ values := hperm.subset (List.mem_map_of_mem hs)
      exact lookup_of_mem (hfst.nodup hdistinct) hmem
    · exact (hfst.symm.trans (List.reverse_perm _).symm).subperm

/-- The slots make a path of a template: this is cut into their literals and names, which are
distinct; the values given are theirs, in some order, and none is refused; the path has each
encoded value in the place of its placeholder. -/
structure MakesPath (template : String) (values : List (String × String)) (slots : List Slot)
    (last : List Char) (path : String) : Prop where
  toList_template : template.toList =
    slots.flatMap (fun s => s.literal ++ '{' :: (s.name.toList ++ ['}'])) ++ last
  literal : ∀ s ∈ slots, '{' ∉ s.literal ∧ '}' ∉ s.literal
  name : ∀ s ∈ slots, '}' ∉ s.name.toList
  lastLiteral : '{' ∉ last ∧ '}' ∉ last
  distinct : (slots.map Slot.name).Nodup
  given : (slots.map fun s => (s.name, s.value)).Perm values
  kept : ∀ s ∈ slots, s.value ∉ ["", ".", ".."]
  toList_path : path.toList =
    slots.flatMap (fun s => s.literal ++ (octetsOf s.value).flatMap Percent.escapeOctet) ++ last

theorem isCut_slots_iff {template : List Char} {last : List Char} :
    IsCut template (slots.map Slot.cut) last ↔
      template = slots.flatMap (fun s => s.literal ++ '{' :: (s.name.toList ++ ['}'])) ++ last ∧
        (∀ s ∈ slots, IsLiteral s.literal) ∧ (∀ s ∈ slots, '}' ∉ s.name.toList) ∧
          IsLiteral last := by
  constructor
  · rintro ⟨htext, hliteral, hname, hlast⟩
    rw [List.forall_mem_map] at hliteral hname
    rw [written, List.flatMap_map] at htext
    exact ⟨htext, hliteral, hname, hlast⟩
  · rintro ⟨htext, hliteral, hname, hlast⟩
    refine ⟨?_, List.forall_mem_map.mpr hliteral, List.forall_mem_map.mpr hname, hlast⟩
    rw [written, List.flatMap_map]
    exact htext

theorem isRefused_eq_false_iff (value : String) :
    isRefused value = false ↔ value ∉ ["", ".", ".."] := by
  simp [Bool.eq_false_iff, isRefused_iff]

/-- A path is made in three stages: the template is scanned, its placeholders are filled, and no
value is left over. -/
theorem render_eq_ok_iff_slots {template path : String} :
    render template values = .ok path ↔
      ∃ slots last, scan template.toList = ⟨slots.map Slot.cut, .ok last⟩ ∧
        ((slots.map Slot.name).Nodup ∧ (∀ s ∈ slots, isRefused s.value = false) ∧
          (slots.map Slot.given).Perm values) ∧ path.toList = filledWith slots last := by
  constructor
  · intro h
    unfold render at h
    cases hfill : fill values (scan template.toList).ending (scan template.toList).slots [] with
    | error fault =>
      simp only [hfill] at h
      cases h
    | ok out =>
      obtain ⟨text, used⟩ := out
      cases hunused : firstUnused used values with
      | some name =>
        simp only [hfill, hunused] at h
        cases h
      | none =>
        simp only [hfill, hunused, Except.ok.injEq] at h
        obtain ⟨⟨last, hending⟩, -⟩ := exists_slots_of_fill hfill
        rw [hending] at hfill
        obtain ⟨slots, hcuts, hfillable, hpath, rfl⟩ := fill_eq_ok_iff.mp hfill
        rw [List.append_nil] at hunused
        refine ⟨slots, last, ?_, isFillable_and_used_iff.mp ⟨hfillable, hunused⟩, ?_⟩
        · rw [hcuts, ← hending]
        · rw [← h, String.toList_ofList, hpath]
  · rintro ⟨slots, last, hscan, hvalues, hpath⟩
    obtain ⟨hfillable, hunused⟩ := isFillable_and_used_iff.mpr hvalues
    unfold render
    simp only [hscan, hfillable.fill_eq last, List.append_nil, hunused, ← hpath,
      String.ofList_toList]

/-- A path is made exactly when slots make it. In all other cases there is a fault. -/
theorem render_eq_ok_iff (template : String) (values : List (String × String)) :
    (∀ path, render template values = .ok path ↔
      ∃ slots last, MakesPath template values slots last path) ∧
      ((¬ ∃ path slots last, MakesPath template values slots last path) →
        ∃ fault, render template values = .error fault) := by
  have hiff : ∀ path, render template values = .ok path ↔
      ∃ slots last, MakesPath template values slots last path := by
    intro path
    rw [render_eq_ok_iff_slots]
    constructor
    · rintro ⟨slots, last, hscan, ⟨hdistinct, hkept, hgiven⟩, hpath⟩
      obtain ⟨htext, hliteral, hname, hlast⟩ := isCut_slots_iff.mp (scan_eq_iff.mp hscan)
      refine ⟨slots, last, htext, hliteral, hname, hlast, hdistinct, hgiven, ?_, hpath⟩
      intro s hs
      exact (isRefused_eq_false_iff s.value).mp (hkept s hs)
    · rintro ⟨slots, last, htext, hliteral, hname, hlast, hdistinct, hgiven, hkept, hpath⟩
      refine ⟨slots, last, ?_, ⟨hdistinct, ?_, hgiven⟩, hpath⟩
      · exact scan_eq_iff.mpr (isCut_slots_iff.mpr ⟨htext, hliteral, hname, hlast⟩)
      · intro s hs
        exact (isRefused_eq_false_iff s.value).mpr (hkept s hs)
  refine ⟨hiff, ?_⟩
  intro hnone
  cases hrender : render template values with
  | error fault => exact ⟨fault, rfl⟩
  | ok path => exact absurd ⟨path, (hiff path).mp hrender⟩ hnone

end IdentityApi.PathTemplate
