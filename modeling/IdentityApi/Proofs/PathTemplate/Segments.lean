import IdentityApi.Proofs.PathTemplate.Grammar

/-! # Segments of a path

Where every placeholder is a whole segment of its template, the path has the segments of the
template, and in the place of each placeholder one that decodes to its value and is no dot segment.
So a path tells the values it was made from (`segments_of_render`).
-/
namespace IdentityApi.PathTemplate

variable {values values' : List (String × String)} {ps : List Piece} {template path : String}

/-- What a segment of a template becomes in a path: a literal stays, a placeholder becomes a segment
that decodes to its value and that URL resolution leaves alone. -/
inductive IsFilledSegment (values : List (String × String)) : List Char → List Char → Prop where
  | literal {s : List Char} (h : '{' ∉ s ∧ '}' ∉ s) : IsFilledSegment values s s
  | slot {n value : String} {s : List Char} (hname : '}' ∉ n.toList) (hgiven : (n, value) ∈ values)
      (hdecode : Utf8.decode? (Percent.decode s) = some value.toList)
      (hdot : Url.Reader.isSingleDot s = false ∧ Url.Reader.isDoubleDot s = false) :
      IsFilledSegment values ('{' :: (n.toList ++ ['}'])) s

/-! ## Filled pieces -/

theorem slash_not_mem_filled {p : Piece} (h : '/' ∉ p.text) : '/' ∉ p.filled values := by
  cases p with
  | literal s => exact h
  | slot n => exact Percent.not_mem_encode (by decide) (by decide) _

/-- Cutting a path gives the filled pieces back. -/
theorem splitAt_of_render (hw : IsSegmentwise template) (h : render template values = .ok path) :
    splitAt '/' path.toList = (pieces template).map (Piece.filled values) := by
  obtain ⟨htext, -⟩ := render_ok hw h
  rw [htext]
  apply splitAt_intercalate
  · intro s hs
    obtain ⟨p, hp, rfl⟩ := List.mem_map.mp hs
    apply slash_not_mem_filled
    apply not_mem_of_mem_splitAt
    rw [← hw.map_text_pieces]
    exact List.mem_map_of_mem hp
  · simp [pieces, splitAt_ne_nil]

theorem isFilledSegment_filled {p : Piece} (hsound : p.IsSound) (hgiven : IsGiven values p) :
    IsFilledSegment values p.text (p.filled values) := by
  cases p with
  | literal s => exact .literal hsound
  | slot n =>
    obtain ⟨value, hvalue, href⟩ := hgiven
    have hfilled : Piece.filled values (.slot n) =
        Percent.encode Percent.isUnreserved value.toList := by
      rw [Piece.filled, hvalue, Option.getD_some]
    have hname : '}' ∉ (String.ofList n).toList := by
      rw [String.toList_ofList]
      exact hsound
    have hdecode : Utf8.decode? (Percent.decode (Piece.filled values (.slot n))) =
        some value.toList := by
      rw [hfilled, Percent.decode_encode (by decide), Utf8.decode?_encode]
    have hdot : Url.Reader.isDot (Piece.filled values (.slot n)) = false := by
      rw [hfilled]
      exact (isPlainSegment_value href).noDot
    rw [Url.Reader.isDot, Bool.or_eq_false_iff] at hdot
    have hsegment := IsFilledSegment.slot hname (mem_of_lookup hvalue) hdecode hdot
    rwa [String.toList_ofList] at hsegment

/-! ## Names -/

theorem used_of_place {p : Piece} {seen used : List String} {s : List Char}
    (h : place values seen p = .ok (s, used)) : used = p.name?.toList ++ seen := by
  cases p with
  | literal t =>
    cases h
    rfl
  | slot n =>
    simp only [place] at h
    cases hvalue : values.lookup (String.ofList n) with
    | none => simp [hvalue] at h
    | some value =>
      rw [hvalue] at h
      dsimp only at h
      split_ifs at h
      cases h
      rfl

/-- Filling uses the names of the pieces. -/
theorem used_of_fillPieces {seen used : List String} {l : List (List Char)}
    (h : fillPieces values ps seen = .ok (l, used)) : used = (names ps).reverse ++ seen := by
  induction ps generalizing seen used l with
  | nil =>
    cases h
    rfl
  | cons p ps ih =>
    rw [fillPieces] at h
    cases hp : place values seen p with
    | error fault =>
      rw [hp] at h
      cases h
    | ok out =>
      obtain ⟨s, seen'⟩ := out
      rw [hp] at h
      cases hr : fillPieces values ps seen' with
      | error fault => simp [hr, Except.map] at h
      | ok rest =>
        simp only [hr, Except.map, Except.ok.injEq, Prod.mk.injEq] at h
        rw [← h.2, ih hr, used_of_place hp]
        cases p <;> simp [Piece.name?]

/-- Every name that a value is given for is that of a placeholder. -/
theorem exists_slot_of_render (hw : IsSegmentwise template) (h : render template values = .ok path)
    {e : String × String} (he : e ∈ values) :
    ∃ n, .slot n ∈ pieces template ∧ String.ofList n = e.1 := by
  rw [render_eq hw] at h
  cases hf : fillPieces values (pieces template) [] with
  | error fault =>
    rw [hf] at h
    cases h
  | ok out =>
    obtain ⟨l, used⟩ := out
    rw [hf] at h
    dsimp only at h
    cases hunused : firstUnused used values with
    | some name =>
      rw [hunused] at h
      cases h
    | none =>
      have hmem : e.1 ∈ used :=
        (firstUnused_eq_none_iff.mp hunused).subset (List.mem_map_of_mem he)
      rw [used_of_fillPieces hf, List.append_nil, List.mem_reverse] at hmem
      obtain ⟨p, hp, hname⟩ := List.mem_filterMap.mp hmem
      cases p with
      | literal s => cases hname
      | slot n => exact ⟨n, hp, Option.some.inj hname⟩

theorem nodup_of_render (h : render template values = .ok path) :
    (values.map Prod.fst).Nodup := by
  obtain ⟨slots, last, -, ⟨hdistinct, -, hgiven⟩, -⟩ := render_eq_ok_iff_slots.mp h
  rw [← map_fst_given] at hdistinct
  exact (hgiven.map Prod.fst).nodup_iff.mp hdistinct

/-- Values that make the same path are the same. -/
theorem subset_of_render_eq (hw : IsSegmentwise template) (h : render template values = .ok path)
    (h' : render template values' = .ok path) : values ⊆ values' := by
  intro e he
  obtain ⟨n, hn, hname⟩ := exists_slot_of_render hw h he
  have hsegments := (splitAt_of_render hw h).symm.trans (splitAt_of_render hw h')
  have hfilled := List.map_inj_left.mp hsegments (.slot n) hn
  obtain ⟨value', hvalue', -⟩ := (render_ok hw h').2 (.slot n) hn
  have hvalue : values.lookup (String.ofList n) = some e.2 := by
    rw [hname]
    exact lookup_of_mem (nodup_of_render h) he
  simp only [Piece.filled, hvalue, hvalue', Option.getD_some] at hfilled
  have heq : e.2 = value' := String.toList_inj.mp (encode_inj (by decide) hfilled)
  have hmem := mem_of_lookup hvalue'
  rwa [hname, ← heq] at hmem

/-- A path of a template whose placeholders are whole segments: it has one segment for each of the
template, as `IsFilledSegment` says, every name has one value, and no other values make it. -/
theorem segments_of_render (hw : IsSegmentwise template) (h : render template values = .ok path) :
    (splitAt '/' path.toList).length = (splitAt '/' template.toList).length ∧
      List.Forall₂ (IsFilledSegment values) (splitAt '/' template.toList)
        (splitAt '/' path.toList) ∧
      (values.map Prod.fst).Nodup ∧
      ∀ values', render template values' = .ok path → values'.Perm values := by
  have hforall : List.Forall₂ (IsFilledSegment values) (splitAt '/' template.toList)
      (splitAt '/' path.toList) := by
    rw [splitAt_of_render hw h, ← hw.map_text_pieces, List.forall₂_map_left_iff,
      List.forall₂_map_right_iff, List.forall₂_same]
    intro p hp
    exact isFilledSegment_filled (isSound_of_mem_pieces hw hp) ((render_ok hw h).2 p hp)
  refine ⟨hforall.length_eq.symm, hforall, nodup_of_render h, ?_⟩
  intro values' h'
  have hnodup := (nodup_of_render h).of_map Prod.fst
  have hnodup' := (nodup_of_render h').of_map Prod.fst
  apply (List.perm_ext_iff_of_nodup hnodup' hnodup).mpr
  intro e
  constructor
  · intro he
    exact subset_of_render_eq hw h' h he
  · intro he
    exact subset_of_render_eq hw h h' he

/-- Values that look encoded, given in another order than that of their placeholders. -/
theorem segments_of_spelled_dots :
    let template := "api/{kind}/x/{slug}/"
    let values := [("slug", "a/b%2Fü"), ("kind", "%2e%2E")]
    let path := "api/%252e%252E/x/a%2Fb%252F%C3%BC/"
    (IsSegmentwise template ∧ render template values = .ok path) ∧
      List.Forall₂ (IsFilledSegment values) (splitAt '/' template.toList)
        (splitAt '/' path.toList) ∧
      ∀ values', render template values' = .ok path → values'.Perm values := by
  intro template values path
  have hcut : splitAt '/' template.toList =
      [['a', 'p', 'i'], '{' :: ("kind".toList ++ ['}']), ['x'], '{' :: ("slug".toList ++ ['}']),
        []] := by
    decide +kernel
  have hw : IsSegmentwise template := by
    unfold IsSegmentwise
    rw [hcut]
    simp only [List.forall_mem_cons]
    refine ⟨Or.inl (by decide), Or.inr ⟨_, by decide, rfl⟩, Or.inl (by decide),
      Or.inr ⟨_, by decide, rfl⟩, Or.inl (by decide), by simp⟩
  have hpath : render template values = .ok path := by
    cbv
  obtain ⟨-, hsegments, -, htell⟩ := segments_of_render hw hpath
  exact ⟨⟨hw, hpath⟩, hsegments, htell⟩

end IdentityApi.PathTemplate
