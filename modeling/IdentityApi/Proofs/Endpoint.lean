import IdentityApi.Operation
import IdentityApi.Proofs.PathTemplate

/-! # Routes of endpoints

Every path of the table is a route: behind the root of the interface each segment is one tame piece.
So a path that is made from it consists of plain segments and begins with that root. Every operation
with a name asks an endpoint of the table.
-/
namespace IdentityApi

namespace Endpoint

open PathTemplate Url.Reader

/-! ## Routes as pieces -/

def isTameSegment (s : String) : Bool :=
  (Piece.ofSegment s.toList).text == s.toList && (Piece.ofSegment s.toList).isTame

theorem exists_route {e : Endpoint} (h : e ∈ all) :
    ∃ segments, e.path = route segments ∧ segments.all isTameSegment = true := by
  revert e
  simp only [all, List.forall_mem_cons]
  repeat' apply And.intro
  all_goals first | exact ⟨_, rfl, by decide +kernel⟩ | simp

/-- The segments of a route, the root of the interface in front and an empty one at the end. -/
def routeSegments (segments : List String) : List (List Char) :=
  ['a', 'p', 'i'] :: ['v', '3'] :: (segments.map String.toList ++ [[]])

theorem toList_route (segments : List String) :
    (route segments).toList = ['/'].intercalate (routeSegments segments) := by
  have htail : (segments.map (· ++ "/")).flatMap String.toList =
      ['/'].intercalate (segments.map String.toList ++ [[]]) := by
    induction segments with
    | nil => rfl
    | cons s l ih =>
      rw [List.map_cons, List.flatMap_cons, ih, List.map_cons, List.cons_append,
        List.intercalate_cons_of_ne_nil (by simp)]
      simp
  rw [route, String.toList_append, String.toList_join, htail, routeSegments,
    List.intercalate_cons_cons, List.intercalate_cons_of_ne_nil (by simp)]
  simp

theorem slash_not_mem_text {p : Piece} (h : p.isTame = true) : '/' ∉ p.text := by
  have hfree : ∀ {s : List Char}, s.all Percent.isUnreserved = true → '/' ∉ s := by
    intro s hs hmem
    exact (isUnreserved_ne (List.all_eq_true.mp hs _ hmem)).2.2 rfl
  cases p with
  | literal s =>
    rw [Piece.isTame, Bool.and_eq_true, Bool.and_eq_true] at h
    exact hfree h.1.1
  | slot n =>
    have := hfree h
    simp [Piece.text, this]

theorem splitAt_route {segments : List String} (h : segments.all isTameSegment = true) :
    splitAt '/' (route segments).toList = routeSegments segments := by
  rw [toList_route]
  refine splitAt_intercalate (fun s hs => ?_) (by simp [routeSegments])
  simp only [routeSegments, List.mem_cons, List.mem_append, List.mem_map, List.not_mem_nil,
    or_false] at hs
  rcases hs with rfl | rfl | ⟨t, ht, rfl⟩ | rfl
  · decide
  · decide
  · have hok := List.all_eq_true.mp h t ht
    rw [isTameSegment, Bool.and_eq_true, beq_iff_eq] at hok
    rw [← hok.1]
    exact slash_not_mem_text hok.2
  · simp

theorem isSegmented_route {segments : List String} (h : segments.all isTameSegment = true) :
    isSegmented (route segments) = true := by
  rw [isSegmented, splitAt_route h]
  simp only [routeSegments, List.all_cons, List.all_append, List.all_map, List.all_nil]
  simp only [Bool.and_eq_true]
  refine ⟨by decide, by decide, h, by decide⟩

/-- The pieces of a route, segment by segment. Unlike those of the whole path they are cheap to
evaluate. -/
def routePieces (segments : List String) : List Piece :=
  .literal ['a', 'p', 'i'] :: .literal ['v', '3'] ::
    (segments.map fun s => Piece.ofSegment s.toList) ++ [.literal []]

theorem pieces_route {segments : List String} (h : segments.all isTameSegment = true) :
    pieces (route segments) = routePieces segments := by
  rw [pieces, splitAt_route h]
  simp [routeSegments, routePieces, Piece.ofSegment, Function.comp_def]

/-! ## Paths made from routes -/

theorem isPlainSegment_filled {values : List (String × String)} {p : Piece}
    (h : p.isTame = true) (hgiven : IsGiven values p) : IsPlainSegment (p.filled values) := by
  cases p with
  | literal s =>
    rw [Piece.isTame, Bool.and_eq_true, Bool.and_eq_true] at h
    have hs : ∀ c ∈ s, Percent.isUnreserved c = true := List.all_eq_true.mp h.1.1
    have hself := isPlainSegment_encode (s := s) ⟨by simpa using h.1.2, by simpa using h.2⟩
    rwa [Percent.encode_eq_self hs] at hself
  | slot n =>
    obtain ⟨value, hv, href⟩ := hgiven
    rw [Piece.filled, hv, Option.getD_some]
    exact isPlainSegment_value href

/-- A path made for an endpoint stands below the root of the interface, in plain segments. -/
theorem render_plain {e : Endpoint} (he : e ∈ all) {values : List (String × String)} {text : String}
    (h : render e.path values = .ok text) :
    ∃ l, l ≠ [] ∧ text.toList = ['/'].intercalate (['a', 'p', 'i'] :: ['v', '3'] :: l) ∧
      ∀ s ∈ ['a', 'p', 'i'] :: ['v', '3'] :: l, IsPlainSegment s := by
  obtain ⟨segments, hroute, htame⟩ := exists_route he
  rw [hroute] at h
  have hseg := isSegmented_route htame
  obtain ⟨htext, hgiven⟩ := render_ok (isSegmentwise_of_isSegmented hseg) h
  have hplain : ∀ s ∈ (pieces (route segments)).map (Piece.filled values), IsPlainSegment s := by
    intro s hs
    obtain ⟨p, hp, rfl⟩ := List.mem_map.mp hs
    exact isPlainSegment_filled (isTame_of_mem_pieces hseg hp) (hgiven p hp)
  rw [pieces_route htame, routePieces] at htext hplain
  refine ⟨_, ?_, htext, hplain⟩
  simp

end Endpoint

/-! ## Operations with a name -/

namespace Operation

def isNamed : Operation → Bool
  | free _ _ => false
  | _ => true

theorem endpoint_mem_all {o : Operation} (h : o.isNamed = true) :
    o.plan.endpoint ∈ Endpoint.all := by
  cases o with
  | free endpoint parameters => cases h
  | administration o => cases o <;> simp [plan, AdministrationOperation.plan, Endpoint.all]
  | application o => cases o <;> simp [plan, ApplicationOperation.plan, Endpoint.all]
  | device o => cases o <;> simp [plan, DeviceOperation.plan, Endpoint.all]
  | event o => cases o <;> simp [plan, EventOperation.plan, Endpoint.all]
  | flow o => cases o <;> simp [plan, FlowOperation.plan, Endpoint.all]
  | group o => cases o <;> simp [plan, GroupOperation.plan, Endpoint.all]
  | token o => cases o <;> simp [plan, TokenOperation.plan, Endpoint.all]
  | user o => cases o <;> simp [plan, UserOperation.plan, Endpoint.all]

end Operation

end IdentityApi
