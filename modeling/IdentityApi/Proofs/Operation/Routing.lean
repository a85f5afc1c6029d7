import IdentityApi.Proofs.Operation.Building

/-! # Routes do not overlap

No path belongs to two endpoints of one method: where a placeholder meets a literal, no value for
the placeholder reads as the literal. So method and path of a request tell the endpoint and the
arguments that it was built for (`arguments_eq_of_path_eq`).
-/
namespace IdentityApi

open PathTemplate Url.Reader

/-! ## Pieces that can read alike -/

namespace PathTemplate

/-- What is known of a text at a placeholder: a kind has one of a few names, the text of a number
holds a digit, that of a UUID has 36 characters, and every other one is not empty. -/
def mayStand (name : String) (s : List Char) : Bool :=
  if name == "kind" then (Choice.names DeviceKind).any fun kind => kind.toList == s
  else if name == "id" then s.any Char.isDigit
  else if name == "group_uuid" || name == "event_uuid" then s.length == 36
  else !s.isEmpty

/-- Two pieces that may read alike. -/
def Piece.meets : Piece → Piece → Bool
  | .literal s, .literal t => s == t
  | .literal s, .slot n => mayStand (String.ofList n) s
  | .slot n, .literal t => mayStand (String.ofList n) t
  | .slot _, .slot _ => true

/-- Two templates that may read alike, piece by piece. -/
def overlap : List Piece → List Piece → Bool
  | [], [] => true
  | p :: ps, q :: qs => p.meets q && overlap ps qs
  | [], _ :: _ | _ :: _, [] => false

theorem Piece.meets_comm (p q : Piece) : p.meets q = q.meets p := by
  cases p with
  | literal s =>
    cases q with
    | literal t => exact Bool.beq_comm
    | slot n => rfl
  | slot n => cases q <;> rfl

theorem overlap_comm (ps qs : List Piece) : overlap ps qs = overlap qs ps := by
  induction ps generalizing qs with
  | nil => cases qs <;> rfl
  | cons p ps ih =>
    cases qs with
    | nil => rfl
    | cons q qs => rw [overlap, overlap, Piece.meets_comm, ih]

/-- The values at the placeholders of a list of pieces are what may stand there. -/
def IsApt (values : List (String × String)) (ps : List Piece) : Prop :=
  ∀ n, .slot n ∈ ps → mayStand (String.ofList n) (Piece.filled values (.slot n)) = true

theorem IsApt.tail {values : List (String × String)} {p : Piece} {ps : List Piece}
    (h : IsApt values (p :: ps)) : IsApt values ps :=
  fun n hn => h n (List.mem_cons_of_mem p hn)

theorem overlap_of_filled_eq {values values' : List (String × String)} {ps qs : List Piece}
    (hp : IsApt values ps) (hq : IsApt values' qs)
    (h : ps.map (Piece.filled values) = qs.map (Piece.filled values')) :
    overlap ps qs = true := by
  induction ps generalizing qs with
  | nil =>
    cases qs with
    | nil => rfl
    | cons q qs => cases h
  | cons p ps ih =>
    cases qs with
    | nil => cases h
    | cons q qs =>
      rw [List.map_cons, List.map_cons, List.cons.injEq] at h
      rw [overlap, ih hp.tail hq.tail h.2, Bool.and_true]
      cases p with
      | literal s =>
        cases q with
        | literal t => exact beq_iff_eq.mpr h.1
        | slot n =>
          have := hq n List.mem_cons_self
          rwa [← h.1] at this
      | slot n =>
        cases q with
        | literal t =>
          have := hp n List.mem_cons_self
          rwa [h.1] at this
        | slot m => rfl

end PathTemplate

namespace Endpoint

/-- The endpoints of the table as methods and routes. No two routes of one method may read alike. -/
theorem exists_routes : ∃ routes : List (Method × List String),
    List.Forall₂ (fun r e => e.method = r.1 ∧ e.path = route r.2) routes all ∧
      (∀ r ∈ routes, r.2.all isTameSegment = true) ∧
        routes.Pairwise fun r r' => r.1 = r'.1 →
          overlap (routePieces r.2) (routePieces r'.2) = false := by
  apply Exists.intro
  apply And.intro
  · -- each step finds the route of one endpoint
    dsimp only [all]
    repeat' apply List.Forall₂.cons (a := (_, _)) ⟨rfl, rfl⟩
    exact .nil
  · constructor <;> decide +kernel

/-- Two endpoints of the table that share a method cannot read alike. -/
theorem eq_of_overlap {e f : Endpoint} (he : e ∈ all) (hf : f ∈ all)
    (hmethod : e.method = f.method) (h : overlap (pieces e.path) (pieces f.path) = true) :
    e = f := by
  obtain ⟨routes, hroutes, htame, hapart⟩ := exists_routes
  have hmap : routes.map (fun r => (r.1, routePieces r.2)) =
      all.map fun e => (e.method, pieces e.path) := by
    rw [← List.forall₂_eq_eq_eq, List.forall₂_map_left_iff, List.forall₂_map_right_iff]
    refine ((List.forall₂_and_left _ _).mpr ⟨htame, hroutes⟩).imp fun r e ⟨htame, hm, hp⟩ => ?_
    rw [hm, hp, pieces_route htame]
  have htable : all.Pairwise fun e f =>
      e.method = f.method → overlap (pieces e.path) (pieces f.path) = false := by
    let Apart (p q : Method × List Piece) : Prop := p.1 = q.1 → overlap p.2 q.2 = false
    have hpieces := hapart.map (S := Apart)
      (fun r : Method × List String => (r.1, routePieces r.2)) fun _ _ => id
    rw [hmap] at hpieces
    exact List.pairwise_map.mp hpieces
  by_contra hne
  have hsymm : Std.Symm fun e f : Endpoint =>
      e.method = f.method → overlap (pieces e.path) (pieces f.path) = false :=
    ⟨fun e f hef hm => by rw [overlap_comm]; exact hef hm.symm⟩
  rw [htable.forall he hf hne hmethod] at h
  cases h

end Endpoint

/-! ## Values that operations give -/

theorem Argument.mayStand_encode {name : String} {a : Argument} (hfits : a.fits name = true)
    (hkept : isRefused a.value = false) :
    mayStand name (Percent.encode Percent.isUnreserved a.value.toList) = true := by
  cases a with
  | text s =>
    have hne : Percent.encode Percent.isUnreserved s.toList ≠ [] := by
      intro hnil
      have hs : s.toList = [] := encode_inj (by decide) hnil
      rw [show s = "" from String.toList_inj.mp hs] at hkept
      revert hkept
      decide
    rw [fits, Bool.or_eq_true, beq_iff_eq, beq_iff_eq] at hfits
    rcases hfits with rfl | rfl <;> simpa [mayStand, value] using hne
  | number n =>
    obtain ⟨c, hc, hd⟩ := Integer.exists_digit_mem_repr n.toInt
    rw [encode_value (by simp)]
    rw [fits, beq_iff_eq] at hfits
    subst hfits
    exact List.any_eq_true.mpr ⟨c, hc, hd⟩
  | uuid u =>
    rw [encode_value (by simp), value, Uuid.text, String.toList_ofList]
    rw [fits, Bool.or_eq_true, beq_iff_eq, beq_iff_eq] at hfits
    rcases hfits with rfl | rfl <;> simp [mayStand, Uuid.length_chars]
  | kind k =>
    rw [encode_value (by simp)]
    rw [fits, beq_iff_eq] at hfits
    subst hfits
    cases k <;> decide

/-- Arguments that fit their placeholders are told by their values. -/
theorem Argument.eq_of_map_value_eq {l m : List (String × Argument)}
    (hl : ∀ p ∈ l, p.2.fits p.1 = true) (hm : ∀ p ∈ m, p.2.fits p.1 = true)
    (h : l.map (fun p => (p.1, p.2.value)) = m.map fun p => (p.1, p.2.value)) : l = m := by
  refine eq_of_map_eq ?_ h
  intro p hp r hr hpr
  obtain ⟨hname, hvalue⟩ := Prod.mk.inj hpr
  have hfits : r.2.fits p.1 = true := by
    rw [hname]
    exact hm r hr
  exact Prod.ext hname (eq_of_value_eq (hl p hp) hfits hvalue)

namespace Operation

variable {o o' : Operation} {c : Client} {q q' : Request}

theorem isApt_of_kept (h : o.isNamed = true)
    (hkept : ∀ p ∈ o.arguments, isRefused p.2.value = false) :
    IsApt o.plan.parameters.path (pieces o.plan.endpoint.path) := by
  intro n hn
  have hname : String.ofList n ∈ o.arguments.map Prod.fst := by
    rw [← names_eq h]
    exact List.mem_filterMap.mpr ⟨.slot n, hn, rfl⟩
  obtain ⟨p, hp, hpn⟩ := List.mem_map.mp hname
  have hmem : (p.1, p.2.value) ∈ o.plan.parameters.path := by
    rw [path_eq h]
    exact List.mem_map_of_mem hp
  have hnodup : (o.plan.parameters.path.map Prod.fst).Nodup := by
    rw [path_eq h, List.map_map]
    exact names_nodup h
  rw [Piece.filled, ← hpn, lookup_of_mem hnodup hmem]
  exact Argument.mayStand_encode (fits_of_mem hp) (hkept p hp)

/-- Segments that operations fill hold no slash. -/
theorem slash_not_mem_segments (h : o.isNamed = true) {t : String}
    (ht : o.plan.parameters.target o.plan.endpoint = .ok t) :
    ∀ s ∈ o.segments, '/' ∉ s := by
  have hseg := isSegmented_of_named h
  obtain ⟨-, hgiven⟩ := render_ok (isSegmentwise_of_isSegmented hseg) (Parameters.target_ok ht)
  intro s hs hslash
  obtain ⟨p, hp, rfl⟩ := List.mem_map.mp hs
  have hplain := Endpoint.isPlainSegment_filled (isTame_of_mem_pieces hseg hp) (hgiven p hp)
  exact absurd (hplain.plain _ hslash) (by decide)

/-- What is known of a request that was built. -/
theorem request_ok {text : String} (hc : Client.baseOf text = .ok c.base) (h : o.isNamed = true)
    (hq : o.plan.request c = .ok q) :
    q.method = o.plan.endpoint.method.name ∧
      (∀ p ∈ o.arguments, isRefused p.2.value = false) ∧ (∀ s ∈ o.segments, '/' ∉ s) ∧
      ∃ front last, c.base.path = .segments (front ++ [last]) ∧
        q.url.path.text =
          (Url.Path.segments (front ++ [""])).text ++
            String.ofList (['/'].intercalate o.segments) := by
  obtain ⟨front, last, hpath, hrequest⟩ := request_eq hc h
  have htarget := target_eq h
  cases hfind : o.arguments.find? fun p => isRefused p.2.value with
  | some p =>
    rw [hfind] at htarget
    rw [hrequest, htarget] at hq
    cases hq
  | none =>
    rw [hfind] at htarget
    have hslash := slash_not_mem_segments h htarget
    rw [hrequest, htarget] at hq
    cases hq
    refine ⟨rfl, ?_, hslash, front, last, hpath, ?_⟩
    · intro p hp
      simpa using List.find?_eq_none.mp hfind p hp
    · simp only [Parameters.urlOver, List.dropLast_concat]
      exact Url.text_segments_append front _

theorem segments_ne_nil (o : Operation) : o.segments ≠ [] := by
  simp [segments, pieces, splitAt_ne_nil]

/-- Requests over one base with the same path have the same segments below it. -/
theorem segments_eq_of_path_eq {text : String} (hc : Client.baseOf text = .ok c.base)
    (h : o.isNamed = true) (h' : o'.isNamed = true) (hq : o.plan.request c = .ok q)
    (hq' : o'.plan.request c = .ok q') (hpath : q.url.path.text = q'.url.path.text) :
    o.segments = o'.segments := by
  obtain ⟨-, -, hslash, front, last, hbase, htext⟩ := request_ok hc h hq
  obtain ⟨-, -, hslash', front', last', hbase', htext'⟩ := request_ok hc h' hq'
  -- both paths begin with the folder of the base
  obtain ⟨rfl, rfl⟩ : front = front' ∧ last = last' := by
    have := Url.Path.segments.inj (hbase.symm.trans hbase')
    simpa using this
  rw [htext, htext', String.append_right_inj, String.ofList_inj] at hpath
  rw [← splitAt_intercalate hslash (segments_ne_nil o), hpath,
    splitAt_intercalate hslash' (segments_ne_nil o')]

/-- At one endpoint the segments tell the arguments. -/
theorem arguments_eq_of_segments_eq (h : o.isNamed = true) (h' : o'.isNamed = true)
    (hendpoint : o.plan.endpoint = o'.plan.endpoint) (hsegments : o.segments = o'.segments) :
    o.arguments = o'.arguments := by
  have hmap : ∀ {o : Operation}, o.isNamed = true →
      o.plan.parameters.path.map Prod.fst = o.arguments.map Prod.fst := by
    intro o h
    rw [path_eq h, List.map_map]
    rfl
  have hvalues : o.plan.parameters.path = o'.plan.parameters.path := by
    rw [segments, segments, ← hendpoint] at hsegments
    refine filled_inj ?_ ?_ ?_ hsegments
    · rw [hmap h]
      exact names_nodup h
    · rw [hmap h, names_eq h]
    · rw [hmap h', hendpoint, names_eq h']
  rw [path_eq h, path_eq h'] at hvalues
  exact Argument.eq_of_map_value_eq (fun _ => fits_of_mem) (fun _ => fits_of_mem) hvalues

/-- Requests of one client with the same method and the same path ask the same endpoint with equal
arguments. -/
theorem arguments_eq_of_path_eq {text : String} (hc : Client.baseOf text = .ok c.base)
    (h : o.isNamed = true) (h' : o'.isNamed = true) (hq : o.plan.request c = .ok q)
    (hq' : o'.plan.request c = .ok q') (hmethod : q.method = q'.method)
    (hpath : q.url.path.text = q'.url.path.text) :
    o.plan.endpoint = o'.plan.endpoint ∧ o.arguments = o'.arguments := by
  obtain ⟨hm, hkept, -⟩ := request_ok hc h hq
  obtain ⟨hm', hkept', -⟩ := request_ok hc h' hq'
  have hsegments := segments_eq_of_path_eq hc h h' hq hq' hpath
  have hendpoint : o.plan.endpoint = o'.plan.endpoint := by
    refine Endpoint.eq_of_overlap (endpoint_mem_all h) (endpoint_mem_all h') ?_
      (overlap_of_filled_eq (isApt_of_kept h hkept) (isApt_of_kept h' hkept') hsegments)
    have hname : o.plan.endpoint.method.name = o'.plan.endpoint.method.name := by
      rw [← hm, ← hm', hmethod]
    revert hname
    cases o.plan.endpoint.method <;> cases o'.plan.endpoint.method <;> decide
  exact ⟨hendpoint, arguments_eq_of_segments_eq h h' hendpoint hsegments⟩

/-- A slug with a slash in it, and a second call that differs in its query only. -/
theorem arguments_of_slashed_slug :
    let base : Url := ⟨"https", some ⟨"", "", "[::1]", none⟩, .segments ["sso", ""], none, none⟩
    let o : Operation := .application (.checkAccess "a/used_by" 1)
    let o' : Operation := .application (.checkAccess "a/used_by" 2)
    ∃ q q', o.plan.request { base } = .ok q ∧ o'.plan.request { base } = .ok q' ∧
      q.method = q'.method ∧ q.url.path.text = q'.url.path.text ∧
        o.plan.endpoint = o'.plan.endpoint ∧ o.arguments = o'.arguments := by
  intro base o o'
  have hbase : Client.baseOf "https://[::1]/sso" = .ok base := Client.baseOf_sso
  have hkept : ∀ p ∈ o.arguments, ¬ p.2.IsDropped := by
    simp [o, arguments, ApplicationOperation.arguments, Argument.IsDropped]
  obtain ⟨q, hq⟩ := exists_request (c := { base }) (o := o) hbase rfl hkept
  obtain ⟨q', hq'⟩ := exists_request (c := { base }) (o := o') hbase rfl hkept
  obtain ⟨hm, -, -, front, last, hfront, htext⟩ := request_ok hbase rfl hq
  obtain ⟨hm', -, -, front', last', hfront', htext'⟩ := request_ok hbase rfl hq'
  have hmethod : q.method = q'.method := by rw [hm, hm']; rfl
  have hpath : q.url.path.text = q'.url.path.text := by
    obtain ⟨rfl, -⟩ : front = front' ∧ last = last' := by
      have := Url.Path.segments.inj (hfront.symm.trans hfront')
      simpa using this
    rw [htext, htext']
    rfl
  exact ⟨q, q', hq, hq', hmethod, hpath,
    arguments_eq_of_path_eq hbase rfl rfl hq hq' hmethod hpath⟩

end Operation

end IdentityApi
