import IdentityApi.Proofs.PathTemplate
import IdentityApi.Proofs.Text.Utf8

/-! # Templates with a value for each placeholder

When the values stand in the order of the placeholders, under distinct names, a path fails to be
made only because a value is refused (`render_of_names`). A path that is made tells the values it
was made from (`filled_inj`).
-/
namespace IdentityApi.PathTemplate

/-- The name of a placeholder. -/
def Piece.name? : Piece → Option String
  | .literal _ => none
  | .slot n => some (String.ofList n)

/-- The names of the placeholders from the left. -/
def names (ps : List Piece) : List String := ps.filterMap Piece.name?

variable {values : List (String × String)} {ps : List Piece}

@[simp] theorem names_literal (s : List Char) : names (.literal s :: ps) = names ps := rfl

@[simp] theorem names_slot (n : List Char) :
    names (.slot n :: ps) = String.ofList n :: names ps := rfl

theorem lookup_of_mem (hnodup : (values.map Prod.fst).Nodup) {p : String × String}
    (h : p ∈ values) : values.lookup p.1 = some p.2 := by
  induction values with
  | nil => cases h
  | cons q rest ih =>
    rw [List.map_cons, List.nodup_cons] at hnodup
    obtain ⟨k, v⟩ := q
    rcases List.mem_cons.mp h with rfl | h
    · simp
    · have hne : (p.1 == k) = false := by
        rw [beq_eq_false_iff_ne]
        intro he
        exact hnodup.1 (List.mem_map.mpr ⟨p, h, he⟩)
      rw [List.lookup_cons, hne]
      exact ih hnodup.2 h

theorem mem_of_lookup {name value : String} (h : values.lookup name = some value) :
    (name, value) ∈ values := by
  obtain ⟨front, rest, hvalues, -⟩ := List.lookup_eq_some_iff.mp h
  rw [hvalues]
  exact List.mem_append_right front List.mem_cons_self

/-- The value of a name, empty if there is none. -/
def valueOf (values : List (String × String)) (name : String) : String :=
  (values.lookup name).getD ""

/-- Pieces with distinct names, each with a value, are filled up to the first refused value. -/
theorem fillPieces_eq (hnodup : (names ps).Nodup)
    (hgiven : ∀ n ∈ names ps, (values.lookup n).isSome) (seen : List String)
    (hseen : ∀ n ∈ names ps, n ∉ seen) :
    fillPieces values ps seen =
      match (names ps).find? fun n => isRefused (valueOf values n) with
      | some n => .error (.refused n (valueOf values n))
      | none => .ok (ps.map (Piece.filled values), (names ps).reverse ++ seen) := by
  induction ps generalizing seen with
  | nil => rfl
  | cons p ps ih =>
    cases p with
    | literal s =>
      simp only [names_literal] at hnodup hgiven hseen ⊢
      rw [fillPieces, place]
      dsimp only
      rw [ih hnodup hgiven seen hseen]
      cases (names ps).find? fun n => isRefused (valueOf values n) <;> rfl
    | slot n =>
      simp only [names_slot, List.nodup_cons, List.forall_mem_cons] at hnodup hgiven hseen ⊢
      obtain ⟨value, hvalue⟩ := Option.isSome_iff_exists.mp hgiven.1
      have hval : valueOf values (String.ofList n) = value := by rw [valueOf, hvalue]; rfl
      rw [fillPieces, place]
      simp only [hvalue, if_neg hseen.1, List.find?_cons, hval]
      cases href : isRefused value with
      | true => simp [hval]
      | false =>
        have hrest : ∀ m ∈ names ps, m ∉ String.ofList n :: seen := by
          intro m hm hmem
          rcases List.mem_cons.mp hmem with rfl | hmem
          · exact hnodup.1 hm
          · exact hseen.2 m hm hmem
        simp only [Bool.false_eq_true, if_false]
        rw [ih hnodup.2 hgiven.2 _ hrest]
        cases (names ps).find? fun n => isRefused (valueOf values n) with
        | some m => rfl
        | none => simp [Except.map, Piece.filled, hvalue]

/-- No value is left over if every name was used as often as it has values. -/
theorem firstUnused_eq_none_iff {used : List String} :
    firstUnused used values = none ↔ (values.map Prod.fst).Subperm used := by
  induction values generalizing used with
  | nil => simp [firstUnused]
  | cons p rest ih =>
    rw [firstUnused, List.map_cons]
    split_ifs with hmem
    · rw [ih]
      constructor
      · intro h
        exact ((List.subperm_cons p.1).mpr h).trans (List.perm_cons_erase hmem).symm.subperm
      · intro h
        have herase := h.erase p.1
        rwa [List.erase_cons_head] at herase
    · constructor
      · intro h
        cases h
      · intro h
        exact absurd (h.subset List.mem_cons_self) hmem

/-- With the values in the order of the placeholders only a refused value is a fault: the first
one. -/
theorem render_of_names {template : String} (h : isSegmented template = true)
    (hnames : values.map Prod.fst = names (pieces template))
    (hnodup : (values.map Prod.fst).Nodup) :
    render template values =
      match values.find? fun p => isRefused p.2 with
      | some p => .error (.refused p.1 p.2)
      | none =>
        .ok (String.ofList (['/'].intercalate ((pieces template).map (Piece.filled values)))) := by
  have hlookup : ∀ p ∈ values, valueOf values p.1 = p.2 := by
    intro p hp
    rw [valueOf, lookup_of_mem hnodup hp]
    rfl
  have hgiven : ∀ n ∈ names (pieces template), (values.lookup n).isSome := by
    intro n hn
    rw [← hnames] at hn
    obtain ⟨p, hp, rfl⟩ := List.mem_map.mp hn
    rw [lookup_of_mem hnodup hp]
    rfl
  have hfind : ((names (pieces template)).find? fun n => isRefused (valueOf values n)) =
      (values.find? fun p => isRefused p.2).map Prod.fst := by
    rw [← hnames, List.find?_map]
    congr 1
    refine List.find?_congr fun p hp => ?_
    rw [Function.comp_apply, hlookup p hp]
  rw [render_eq (isSegmentwise_of_isSegmented h),
    fillPieces_eq (hnames ▸ hnodup) hgiven [] (by simp), hfind]
  cases hrefused : values.find? fun p => isRefused p.2 with
  | some p => simp [hlookup p (List.mem_of_find?_eq_some hrefused)]
  | none =>
    have hused : firstUnused (names (pieces template)).reverse values = none := by
      refine firstUnused_eq_none_iff.mpr ?_
      rw [hnames]
      exact (List.reverse_perm _).symm.subperm
    simp [hused]

/-! ## Paths tell their values -/

theorem encode_inj {keep : Char → Bool} (h : keep '%' = false) {s t : List Char}
    (he : Percent.encode keep s = Percent.encode keep t) : s = t := by
  have := congrArg Percent.decode he
  rw [Percent.decode_encode h, Percent.decode_encode h] at this
  exact Utf8.encode_inj this

/-- Two lists of values under the same names that fill the pieces alike are equal. -/
theorem filled_inj {values' : List (String × String)} (hnodup : (values.map Prod.fst).Nodup)
    (hnames : values.map Prod.fst = names ps) (hnames' : values'.map Prod.fst = names ps)
    (h : ps.map (Piece.filled values) = ps.map (Piece.filled values')) : values = values' := by
  have hvalue : ∀ n ∈ names ps, valueOf values n = valueOf values' n := by
    intro n hn
    obtain ⟨p, hp, hname⟩ := List.mem_filterMap.mp hn
    have hfilled := List.map_inj_left.mp h p hp
    cases p with
    | literal s => cases hname
    | slot m =>
      cases hname
      exact String.toList_inj.mp (encode_inj (by decide) hfilled)
  have hnodup' : (values'.map Prod.fst).Nodup := by rwa [hnames', ← hnames]
  have hself : ∀ {l : List (String × String)}, (l.map Prod.fst).Nodup →
      l = (l.map Prod.fst).map fun n => (n, valueOf l n) := by
    intro l hl
    rw [List.map_map]
    conv_lhs => rw [← List.map_id l]
    refine List.map_congr_left fun p hp => ?_
    rw [Function.comp_apply, valueOf, lookup_of_mem hl hp]
    rfl
  rw [hself hnodup, hself hnodup', hnames, hnames']
  exact List.map_congr_left fun n hn => by rw [hvalue n hn]

end IdentityApi.PathTemplate
