import IdentityApi.PathTemplate
import IdentityApi.Proofs.Url.Joining

/-! # Templates segment by segment

A template in which every placeholder fills a whole segment is a list of pieces between slashes.
Filling it from the left (`fill` over `scan`) fills the pieces one by one, and the path that comes
out has one segment a piece, none of which URL resolution would touch.
-/
namespace IdentityApi.PathTemplate

/-! ## Literals -/

/-- A text outside braces. -/
def IsLiteral (s : List Char) : Prop := '{' ∉ s ∧ '}' ∉ s

instance (s : List Char) : Decidable (IsLiteral s) :=
  inferInstanceAs (Decidable ('{' ∉ s ∧ '}' ∉ s))

theorem IsLiteral.nil : IsLiteral [] := ⟨List.not_mem_nil, List.not_mem_nil⟩

theorem IsLiteral.cons {c : Char} (ho : c ≠ '{') (hc : c ≠ '}') {s : List Char}
    (h : IsLiteral s) : IsLiteral (c :: s) := by
  constructor
  · simp [Ne.symm ho, h.1]
  · simp [Ne.symm hc, h.2]

theorem IsLiteral.of_cons {c : Char} {s : List Char} (h : IsLiteral (c :: s)) :
    c ≠ '{' ∧ c ≠ '}' ∧ IsLiteral s := by
  obtain ⟨ho, hc⟩ := h
  rw [List.mem_cons, not_or] at ho hc
  exact ⟨Ne.symm ho.1, Ne.symm hc.1, ho.2, hc.2⟩

theorem isUnreserved_ne {c : Char} (h : Percent.isUnreserved c = true) :
    c ≠ '{' ∧ c ≠ '}' ∧ c ≠ '/' := by
  refine ⟨?_, ?_, ?_⟩ <;> rintro rfl <;> revert h <;> decide

/-! ## Pieces -/

/-- A segment of a template: a text for itself, or a placeholder. -/
inductive Piece where
  | literal (text : List Char)
  | slot (name : List Char)
  deriving DecidableEq

namespace Piece

def ofSegment : List Char → Piece
  | '{' :: r => slot r.dropLast
  | s => literal s

def text : Piece → List Char
  | literal s => s
  | slot n => '{' :: (n ++ ['}'])

/-- It scans as one piece: a literal holds no brace, a name no closing one. -/
def IsSound : Piece → Prop
  | literal s => IsLiteral s
  | slot n => '}' ∉ n

/-- Made of unreserved characters. A literal is no dot segment. -/
def isTame : Piece → Bool
  | literal s => s.all Percent.isUnreserved && s != ['.'] && s != ['.', '.']
  | slot n => n.all Percent.isUnreserved

/-- What a piece becomes. -/
def filled (values : List (String × String)) : Piece → List Char
  | literal s => s
  | slot n =>
    Percent.encode Percent.isUnreserved ((values.lookup (String.ofList n)).getD "").toList

theorem ofSegment_literal {s : List Char} (h : IsLiteral s) : ofSegment s = literal s := by
  cases s with
  | nil => rfl
  | cons c s =>
    obtain ⟨ho, -, -⟩ := h.of_cons
    unfold ofSegment
    split
    · rename_i heq
      cases heq
      exact absurd rfl ho
    · rfl

theorem ofSegment_slot (n : List Char) : ofSegment ('{' :: (n ++ ['}'])) = slot n := by
  simp [ofSegment]

theorem isSound_of_isTame {p : Piece} (h : p.isTame = true) : p.IsSound := by
  cases p with
  | literal s =>
    simp only [isTame, Bool.and_eq_true, List.all_eq_true] at h
    constructor
    · intro hmem
      exact (isUnreserved_ne (h.1.1 _ hmem)).1 rfl
    · intro hmem
      exact (isUnreserved_ne (h.1.1 _ hmem)).2.1 rfl
  | slot n =>
    intro hmem
    exact (isUnreserved_ne (List.all_eq_true.mp h _ hmem)).2.1 rfl

end Piece

def pieces (template : String) : List Piece :=
  (splitAt '/' template.toList).map Piece.ofSegment

/-- Every placeholder is a whole segment. -/
def IsSegmentwise (template : String) : Prop :=
  ∀ s ∈ splitAt '/' template.toList, IsLiteral s ∨ ∃ n, '}' ∉ n ∧ s = '{' :: (n ++ ['}'])

/-- Every segment of the template is one tame piece. -/
def isSegmented (template : String) : Bool :=
  (splitAt '/' template.toList).all fun s =>
    (Piece.ofSegment s).text == s && (Piece.ofSegment s).isTame

/-- A template as its pieces between slashes. -/
def joined (ps : List Piece) : List Char := ['/'].intercalate (ps.map Piece.text)

theorem text_ofSegment {template : String} (h : isSegmented template = true) {s : List Char}
    (hs : s ∈ splitAt '/' template.toList) :
    (Piece.ofSegment s).text = s ∧ (Piece.ofSegment s).isTame = true := by
  have := List.all_eq_true.mp h s hs
  rwa [Bool.and_eq_true, beq_iff_eq] at this

theorem isSegmentwise_of_isSegmented {template : String} (h : isSegmented template = true) :
    IsSegmentwise template := by
  intro s hs
  obtain ⟨htext, htame⟩ := text_ofSegment h hs
  have hsound := Piece.isSound_of_isTame htame
  rw [← htext]
  cases hp : Piece.ofSegment s with
  | literal t =>
    rw [hp] at hsound
    exact Or.inl hsound
  | slot n =>
    rw [hp] at hsound
    exact Or.inr ⟨n, hsound, rfl⟩

theorem IsSegmentwise.isSound_ofSegment {template : String} (h : IsSegmentwise template)
    {s : List Char} (hs : s ∈ splitAt '/' template.toList) :
    (Piece.ofSegment s).text = s ∧ (Piece.ofSegment s).IsSound := by
  rcases h s hs with hliteral | ⟨n, hn, rfl⟩
  · rw [Piece.ofSegment_literal hliteral]
    exact ⟨rfl, hliteral⟩
  · rw [Piece.ofSegment_slot]
    exact ⟨rfl, hn⟩

theorem IsSegmentwise.map_text_pieces {template : String} (h : IsSegmentwise template) :
    (pieces template).map Piece.text = splitAt '/' template.toList := by
  rw [pieces, List.map_map]
  conv_rhs => rw [← List.map_id (splitAt '/' template.toList)]
  apply List.map_congr_left
  intro s hs
  exact (h.isSound_ofSegment hs).1

theorem joined_pieces {template : String} (h : IsSegmentwise template) :
    joined (pieces template) = template.toList := by
  rw [joined, h.map_text_pieces, intercalate_splitAt]

theorem isSound_of_mem_pieces {template : String} (h : IsSegmentwise template) {p : Piece}
    (hp : p ∈ pieces template) : p.IsSound := by
  obtain ⟨s, hs, rfl⟩ := List.mem_map.mp hp
  exact (h.isSound_ofSegment hs).2

theorem isTame_of_mem_pieces {template : String} (h : isSegmented template = true) {p : Piece}
    (hp : p ∈ pieces template) : p.isTame = true := by
  obtain ⟨s, hs, rfl⟩ := List.mem_map.mp hp
  exact (text_ofSegment h hs).2

/-! ## Filling -/

/-- What a piece becomes, and the names used with it; `seen` holds the names used before. -/
def place (values : List (String × String)) (seen : List String) :
    Piece → Except Fault (List Char × List String)
  | .literal s => .ok (s, seen)
  | .slot n =>
    let name := String.ofList n
    match values.lookup name with
    | none => .error (.missing name)
    | some value =>
      if name ∈ seen then .error (.repeated name)
      else if isRefused value then .error (.refused name value)
      else .ok (Percent.encode Percent.isUnreserved value.toList, name :: seen)

/-- Fills pieces from the left. -/
def fillPieces (values : List (String × String)) :
    List Piece → List String → Except Fault (List (List Char) × List String)
  | [], seen => .ok ([], seen)
  | p :: ps, seen =>
    match place values seen p with
    | .error fault => .error fault
    | .ok (s, seen) => (fillPieces values ps seen).map fun (l, used) => (s :: l, used)

/-- Fills what was scanned. -/
def fillScan (values : List (String × String)) (t : Scan) (seen : List String) :
    Except Fault (List Char × List String) := fill values t.ending t.slots seen

variable {values : List (String × String)}

theorem fillScan_consLiteral (c : Char) (t : Scan) (seen : List String) :
    fillScan values (t.consLiteral c) seen =
      (fillScan values t seen).map fun (text, used) => (c :: text, used) := by
  obtain ⟨slots, ending⟩ := t
  cases slots with
  | nil => cases ending <;> rfl
  | cons slot rest =>
    obtain ⟨literal, n⟩ := slot
    simp only [fillScan, Scan.consLiteral, fill]
    cases values.lookup (String.ofList n) with
    | none => rfl
    | some value =>
      dsimp only
      split_ifs
      · rfl
      · rfl
      · cases fill values ending rest (String.ofList n :: seen) <;> rfl

theorem fillScan_cons {c : Char} (ho : c ≠ '{') (hc : c ≠ '}') (r : List Char)
    (seen : List String) :
    fillScan values (scan (c :: r)) seen =
      (fillScan values (scan r) seen).map fun (text, used) => (c :: text, used) := by
  rw [scan.eq_4 c r ho hc, fillScan_consLiteral]

/-- A text without braces is copied. -/
theorem fillScan_literal {s : List Char} (h : IsLiteral s) (r : List Char) (seen : List String) :
    fillScan values (scan (s ++ r)) seen =
      (fillScan values (scan r) seen).map fun (text, used) => (s ++ text, used) := by
  induction s with
  | nil => cases hr : fillScan values (scan r) seen <;> simp [hr, Except.map]
  | cons c s ih =>
    obtain ⟨ho, hc, hs⟩ := h.of_cons
    rw [List.cons_append, fillScan_cons ho hc, ih hs]
    cases fillScan values (scan r) seen <;> rfl

theorem scanName_append {n : List Char} (h : ∀ c ∈ n, c ≠ '}') (r : List Char) :
    scanName (n ++ '}' :: r) = ⟨([], n) :: (scan r).slots, (scan r).ending⟩ := by
  induction n with
  | nil => rfl
  | cons c n ih =>
    rw [List.cons_append, scanName.eq_3 c _ (h c List.mem_cons_self),
      ih fun d hd => h d (List.mem_cons_of_mem c hd)]
    rfl

/-- The step: a piece at the front of a template is filled, then the rest. -/
theorem fillScan_piece {p : Piece} (hp : p.IsSound) (r : List Char) (seen : List String) :
    fillScan values (scan (p.text ++ r)) seen =
      match place values seen p with
      | .error fault => .error fault
      | .ok (s, seen) => (fillScan values (scan r) seen).map fun (text, used) =>
        (s ++ text, used) := by
  cases p with
  | literal s => exact fillScan_literal hp r seen
  | slot n =>
    have hn : ∀ c ∈ n, c ≠ '}' := by
      rintro c hc rfl
      exact hp hc
    have hscan : scan (Piece.text (.slot n) ++ r) =
        ⟨([], n) :: (scan r).slots, (scan r).ending⟩ := by
      rw [Piece.text, List.cons_append, List.append_assoc, List.singleton_append, scan.eq_2,
        scanName_append hn]
    rw [hscan]
    simp only [fillScan, fill, place]
    cases values.lookup (String.ofList n) with
    | none => rfl
    | some value =>
      dsimp only
      split_ifs
      · rfl
      · rfl
      · rfl

/-- Behind the first piece every piece follows a slash. -/
theorem fillScan_tail {ps : List Piece} (h : ∀ p ∈ ps, p.IsSound) (seen : List String) :
    fillScan values (scan (ps.flatMap fun p => '/' :: p.text)) seen =
      (fillPieces values ps seen).map fun (l, used) => (l.flatMap ('/' :: ·), used) := by
  induction ps generalizing seen with
  | nil => rfl
  | cons p ps ih =>
    rw [List.flatMap_cons, List.cons_append, fillScan_cons (by decide) (by decide),
      fillScan_piece (h p List.mem_cons_self), fillPieces]
    cases place values seen p with
    | error fault => rfl
    | ok out =>
      dsimp only
      rw [ih fun q hq => h q (List.mem_cons_of_mem p hq)]
      cases fillPieces values ps out.2 <;> rfl

/-- Filling what a template scans to is filling its pieces. -/
theorem fillScan_joined {ps : List Piece} (h : ∀ p ∈ ps, p.IsSound) (seen : List String) :
    fillScan values (scan (joined ps)) seen =
      (fillPieces values ps seen).map fun (l, used) => (['/'].intercalate l, used) := by
  cases ps with
  | nil => rfl
  | cons p ps =>
    rw [joined, List.map_cons, intercalate_eq_append_flatMap, List.flatMap_map,
      fillScan_piece (h p List.mem_cons_self), fillPieces]
    cases place values seen p with
    | error fault => rfl
    | ok out =>
      dsimp only
      rw [fillScan_tail fun q hq => h q (List.mem_cons_of_mem p hq)]
      cases fillPieces values ps out.2 with
      | error fault => rfl
      | ok filled => simp [Except.map, intercalate_eq_append_flatMap]

/-- The path of a template whose placeholders are segments, from its pieces. -/
theorem render_eq {template : String} (h : IsSegmentwise template)
    (values : List (String × String)) :
    render template values =
      match fillPieces values (pieces template) [] with
      | .error fault => .error fault
      | .ok (l, used) =>
        match firstUnused used values with
        | some name => .error (.unused name)
        | none => .ok (String.ofList (['/'].intercalate l)) := by
  have hfill : fill values (scan template.toList).ending (scan template.toList).slots [] =
      (fillPieces values (pieces template) []).map fun (l, used) =>
        (['/'].intercalate l, used) := by
    rw [← joined_pieces h]
    exact fillScan_joined (fun p hp => isSound_of_mem_pieces h hp) []
  simp only [render, hfill]
  cases fillPieces values (pieces template) [] <;> rfl

/-! ## Segments of a path -/

theorem isRefused_iff (value : String) :
    isRefused value = true ↔ value = "" ∨ value = "." ∨ value = ".." := by
  simp [isRefused, or_assoc]

/-- A value that is not refused stays one segment. -/
theorem isPlainSegment_value {value : String} (h : isRefused value = false) :
    Url.Reader.IsPlainSegment (Percent.encode Percent.isUnreserved value.toList) := by
  apply Url.Reader.isPlainSegment_encode
  constructor
  · intro hdot
    have hvalue : value = "." := String.toList_inj.mp (hdot.trans (by decide : ['.'] = ".".toList))
    rw [hvalue] at h
    revert h
    decide
  · intro hdots
    have hvalue : value = ".." :=
      String.toList_inj.mp (hdots.trans (by decide : ['.', '.'] = "..".toList))
    rw [hvalue] at h
    revert h
    decide

/-- A placeholder with a value that is not refused. -/
def IsGiven (values : List (String × String)) : Piece → Prop
  | .literal _ => True
  | .slot n => ∃ value, values.lookup (String.ofList n) = some value ∧ isRefused value = false

theorem place_ok {p : Piece} {seen used : List String} {s : List Char}
    (h : place values seen p = .ok (s, used)) : s = p.filled values ∧ IsGiven values p := by
  cases p with
  | literal t => cases h; exact ⟨rfl, trivial⟩
  | slot n =>
    simp only [place] at h
    cases hv : values.lookup (String.ofList n) with
    | none => simp [hv] at h
    | some value =>
      rw [hv] at h
      dsimp only at h
      split_ifs at h with hseen href
      cases h
      exact ⟨by simp [Piece.filled, hv], value, hv, by simpa using href⟩

theorem fillPieces_ok {ps : List Piece} {seen used : List String} {l : List (List Char)}
    (h : fillPieces values ps seen = .ok (l, used)) :
    l = ps.map (Piece.filled values) ∧ ∀ p ∈ ps, IsGiven values p := by
  induction ps generalizing seen used l with
  | nil => cases h; simp
  | cons p ps ih =>
    rw [fillPieces] at h
    cases hp : place values seen p with
    | error fault => rw [hp] at h; cases h
    | ok out =>
      obtain ⟨s, seen'⟩ := out
      rw [hp] at h
      cases hr : fillPieces values ps seen' with
      | error fault => simp [hr, Except.map] at h
      | ok rest =>
        obtain ⟨hs, hgiven⟩ := place_ok hp
        obtain ⟨hl, hall⟩ := ih hr
        simp only [hr, Except.map, Except.ok.injEq, Prod.mk.injEq] at h
        rw [← h.1, hl, hs]
        exact ⟨rfl, List.forall_mem_cons.mpr ⟨hgiven, hall⟩⟩

/-- A path that is made has one filled segment a piece. -/
theorem render_ok {template text : String} (h : IsSegmentwise template)
    (hr : render template values = .ok text) :
    text.toList = ['/'].intercalate ((pieces template).map (Piece.filled values)) ∧
      ∀ p ∈ pieces template, IsGiven values p := by
  rw [render_eq h] at hr
  cases hf : fillPieces values (pieces template) [] with
  | error fault => rw [hf] at hr; cases hr
  | ok out =>
    obtain ⟨l, used⟩ := out
    obtain ⟨hl, hgiven⟩ := fillPieces_ok hf
    rw [hf] at hr
    dsimp only at hr
    split at hr
    · cases hr
    · cases hr
      exact ⟨by rw [String.toList_ofList, hl], hgiven⟩

end IdentityApi.PathTemplate
