import IdentityApi.Proofs.Codec.Filling
import IdentityApi.Proofs.Columns
import IdentityApi.Proofs.Json.Closing
import IdentityApi.Proofs.Reply

/-! # What pages are read from

A page is read from an object or from an array of at most two items, and from nothing else
(`Paginated.read_iff_isReadFrom`). In an object the results are the items of the list named so, each
decoded in its place; a list that is missing counts as an empty one. In an array the list is the
second item, so an array of one item has no results: that item is read as the numbers of the list,
whatever else it holds.
-/
namespace IdentityApi

open Codec
open Json (Tree ok_of_bind ok_of_map)
open Json.Tree (named)

namespace Codec

variable {α : Type} {c : Codec α}

theorem read_eq_ok_iff {s : Octets} {a : α} :
    c.read s = .ok a ↔
      ∃ root, Json.read s = ⟨root, false⟩ ∧ c.decode Json.maxDepth root = .ok a := by
  unfold read
  generalize Json.read s = document
  obtain ⟨root, trailing⟩ := document
  constructor
  · intro h
    obtain ⟨b, hb, h⟩ := ok_of_bind (x := c.decode Json.maxDepth root) h
    cases trailing with
    | true => cases h
    | false =>
      cases h
      exact ⟨root, rfl, hb⟩
  · rintro ⟨root', heq, ha⟩
    cases heq
    exact Json.bind_eq_ok_iff.mpr ⟨a, ha, rfl⟩

/-- What a strict codec reads is closed throughout. -/
theorem IsStrict.read_eq_ok_iff (hc : c.IsStrict) {s : Octets} {a : α} :
    c.read s = .ok a ↔
      ∃ root, Json.read s = ⟨root, false⟩ ∧ root.IsClosed ∧
        c.decode Json.maxDepth root = .ok a := by
  rw [Codec.read_eq_ok_iff]
  constructor
  · rintro ⟨root, hroot, ha⟩
    refine ⟨root, hroot, ?_, ha⟩
    have hclosed := @Json.isClosed_root s
    rw [hroot] at hclosed
    exact hclosed (hc ha)
  · rintro ⟨root, hroot, -, ha⟩
    exact ⟨root, hroot, ha⟩

end Codec

theorem Shape.read_eq_ok_iff {α : Type} {shape : Shape} {c : Codec α} {body : Octets} {a : α}
    (hshape : shape ≠ .empty) (hbody : body.all isBlankOctet = false) :
    shape.read c body = .ok a ↔ c.read body = .ok a := by
  rw [read_of_not_blank hshape hbody]
  cases c.read body with
  | error fault => exact ⟨nofun, nofun⟩
  | ok b => exact ⟨fun h => congrArg _ (Except.ok.inj h), fun h => congrArg _ (Except.ok.inj h)⟩

namespace Paginated

variable {α : Type} {c : Codec α}

/-- The column of what is said about the list. -/
def metaColumn : Column := withDefault "pagination" PaginationMeta.codec {}

/-- The results of a page are the items of its list, each decoded by itself and in this order.
Without a list there are none. -/
inductive AreResults (c : Codec α) : List Tree → List α → Prop
  | missing : AreResults c [] []
  | items {items : List Tree} {results : List α} :
    List.Forall₂ (fun t a => c.decode (Json.maxDepth - 2) t = .ok a) items results →
      AreResults c [.array items .closed] results

/-- The page is made of what stands in the place of its numbers, and in the place of its list. -/
structure IsMadeOf (c : Codec α) (metas lists : List Tree) (p : Paginated α) : Prop where
  pagination : metaColumn.IsFilled (Json.maxDepth - 1) metas p.pagination
  results : AreResults c lists p.results

/-- What a page is read from. -/
inductive IsReadFrom (c : Codec α) : Tree → Paginated α → Prop
  | object {members : List (Except Json.Fault String × Tree)} {p : Paginated α} :
    (∀ m ∈ members, ∃ k, m.1 = .ok k) →
      IsMadeOf c (named "pagination" members) (named "results" members) p →
        IsReadFrom c (.object members .closed) p
  | array {items : List Tree} {p : Paginated α} :
    items.length ≤ 2 → IsMadeOf c (items.take 1) (items.drop 1) p →
      IsReadFrom c (.array items .closed) p

/-- The column of the list. -/
def listColumn (c : Codec α) : Column := withDefault "results" (list c) []

theorem isFilled_listColumn_iff {ts : List Tree} (hts : ∀ t ∈ ts, t.IsClosed)
    {results : List α} :
    (listColumn c).IsFilled (Json.maxDepth - 1) ts results ↔ AreResults c ts results := by
  constructor
  · rintro (h | h)
    · cases h
      exact .missing
    · next t =>
      have ht := hts t List.mem_cons_self
      cases t with
      | array items ending =>
        obtain ⟨rfl, -⟩ := ht
        exact .items (decode_list_iff.mp h)
      | _ => cases h
  · rintro (_ | h)
    · exact .missing rfl
    · exact .read (decode_list_iff.mpr h)

theorem isStrict_columns (hc : c.IsStrict) : ∀ column ∈ columns c, column.codec.IsStrict := by
  simp [columns, hc]

theorem isStrict_codec (hc : c.IsStrict) : (codec c).IsStrict :=
  isStrict_record (isStrict_columns hc)

/-- The columns of a page. -/
def toRow (c : Codec α) (p : Paginated α) : Row (columns c) := (p.pagination, p.results, ())

theorem decode_codec_iff {d : Nat} {t : Tree} {p : Paginated α} :
    (codec c).decode d t = .ok p ↔ (row "Paginated" (columns c)).decode d t = .ok (toRow c p) := by
  constructor
  · intro h
    obtain ⟨⟨pagination, results, ⟨⟩⟩, hrow, rfl⟩ := ok_of_map h
    exact hrow
  · intro h
    exact Json.map_eq_ok_iff.mpr ⟨_, h, rfl⟩

/-- The members of a closed object fill the columns of a page. -/
theorem decode_object_iff (hc : c.IsStrict) {members : List (Except Json.Fault String × Tree)}
    (hmembers : Tree.HoldClosed members) {p : Paginated α} :
    (codec c).decode Json.maxDepth (.object members .closed) = .ok p ↔
      IsReadFrom c (.object members .closed) p := by
  have hnodup : ((columns c).map Column.name).Nodup := by simp [columns, withDefault]
  have hclosed := Tree.isClosed_of_mem_members hmembers
  have hlists : ∀ t ∈ named "results" members, t.IsClosed := by
    intro t ht
    obtain ⟨m, hm, rfl⟩ := Tree.mem_of_mem_named ht
    exact hclosed m hm
  have hread : Slots.IsReadable members ↔ ∀ m ∈ members, ∃ k, m.1 = .ok k := by
    apply forall₂_congr
    intro m hm
    exact and_iff_left (Tree.skip_of_isClosed m.2 (hclosed m hm))
  have hrow := @decode_row_object_iff _ (Json.maxDepth - 1) members hnodup (isStrict_columns hc)
    "Paginated" (toRow c p)
  rw [hread] at hrow
  rw [decode_codec_iff]
  apply hrow.trans
  constructor
  · rintro ⟨hkeys, hmeta, hlist, -⟩
    exact .object hkeys ⟨hmeta, (isFilled_listColumn_iff hlists).mp hlist⟩
  · rintro ⟨hkeys, hmeta, hlist⟩
    exact ⟨hkeys, hmeta, (isFilled_listColumn_iff hlists).mpr hlist, trivial⟩

/-- The first two items of a closed array fill the columns of a page, and there are no more. -/
theorem decode_array_iff {items : List Tree} (hitems : Tree.AreClosed items) {p : Paginated α} :
    (codec c).decode Json.maxDepth (.array items .closed) = .ok p ↔
      IsReadFrom c (.array items .closed) p := by
  have hrow := @decode_row_array_iff (columns c) (Json.maxDepth - 1) "Paginated" items (toRow c p)
  have hlists : ∀ t ∈ items.drop 1, t.IsClosed := by
    intro t ht
    apply Tree.isClosed_of_mem hitems
    exact List.mem_of_mem_drop ht
  have htake : items.length ≤ 2 → (items.drop 1).take 1 = items.drop 1 := by
    intro hlength
    apply List.take_of_length_le
    rw [List.length_drop]
    omega
  rw [decode_codec_iff]
  apply hrow.trans
  constructor
  · rintro ⟨hmeta, hlist, hrest⟩
    have hlength : items.length ≤ 2 := by
      have hdrop := congrArg List.length hrest
      simp only [List.length_drop, List.length_nil] at hdrop
      omega
    rw [htake hlength] at hlist
    exact .array hlength ⟨hmeta, (isFilled_listColumn_iff hlists).mp hlist⟩
  · rintro ⟨⟩
    next hlength h =>
      refine ⟨h.pagination, ?_, ?_⟩
      · rw [htake hlength]
        exact (isFilled_listColumn_iff hlists).mpr h.results
      · apply List.drop_eq_nil_of_le
        rw [List.length_drop]
        omega

theorem decode_iff (hc : c.IsStrict) {t : Tree} (ht : t.IsClosed) {p : Paginated α} :
    (codec c).decode Json.maxDepth t = .ok p ↔ IsReadFrom c t p := by
  cases t with
  | object members ending =>
    obtain ⟨rfl, hmembers⟩ := ht
    exact decode_object_iff hc hmembers
  | array items ending =>
    obtain ⟨rfl, hitems⟩ := ht
    exact decode_array_iff hitems
  | _ => exact ⟨nofun, nofun⟩

/-- A page of records is read from a body in these ways and in no others. -/
theorem read_iff_isReadFrom (m : Resource) {body : Octets}
    (hbody : body.all Shape.isBlankOctet = false) {p : Paginated m.Record} :
    Shape.paginated.read (codec m.codec) body = .ok p ↔
      ∃ root, Json.read body = ⟨root, false⟩ ∧ root.IsClosed ∧ IsReadFrom m.codec root p := by
  have hstrict := m.isStrict_codec
  rw [Shape.read_eq_ok_iff (by decide) hbody, (isStrict_codec hstrict).read_eq_ok_iff]
  apply exists_congr
  intro root
  refine and_congr_right fun _ => and_congr_right fun hroot => ?_
  exact decode_iff hstrict hroot

/-- A list of one device that stands where a page should. -/
def bareDevices : Octets := octetsOf "[\x7b\"pk\":7,\"name\":\"phone\"\x7d]"

set_option maxRecDepth 10000 in
theorem isReadFrom_of_bareDevices :
    bareDevices.all Shape.isBlankOctet = false ∧
      Shape.paginated.read (codec Resource.deviceRecord.codec) bareDevices = .ok ⟨{}, []⟩ ∧
      ∃ root, Json.read bareDevices = ⟨root, false⟩ ∧ root.IsClosed ∧
        IsReadFrom Resource.deviceRecord.codec root ⟨{}, []⟩ := by
  have hbody : bareDevices.all Shape.isBlankOctet = false := by decide +kernel
  have hread : Shape.paginated.read (codec Resource.deviceRecord.codec) bareDevices =
      .ok ⟨{}, []⟩ := by cbv
  exact ⟨hbody, hread, (read_iff_isReadFrom .deviceRecord hbody).mp hread⟩

end Paginated

end IdentityApi
