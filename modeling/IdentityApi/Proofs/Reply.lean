import IdentityApi.Proofs.Json.Spelling
import IdentityApi.Proofs.Resource
import IdentityApi.Reply

/-! # Values that were decoded are decoded again

A value that was decoded from a body is written in a text of its own. With stable codecs that text
is decoded as the same value, which is then written as the same text (`Packing.read_write`). The
numbers of the body must be integers of 64 bits: others may change when they are rounded.
-/
namespace IdentityApi

/-- All numbers in a text are integers of 64 bits. -/
structure Json.HasWholeNumbers (s : Octets) : Prop where
  isWhole_root : (Json.read s).root.IsWhole

namespace Codec

variable {α : Type} {c : Codec α}

/-- The text of a value. -/
def write (c : Codec α) (a : α) : Octets := octetsOf (c.encode a).compact

theorem decode_root_of_read {s : Octets} {a : α} (h : c.read s = .ok a) :
    c.decode Json.maxDepth (Json.read s).root = .ok a := by
  obtain ⟨found, hfound, h⟩ := Json.ok_of_bind (x := c.decode Json.maxDepth (Json.read s).root) h
  dsimp only at h
  split at h
  · cases h
  · cases h
    exact hfound

theorem IsSettled.read_eq {a : α} (h : c.IsSettled Json.maxDepth a) :
    c.read (c.write a) = .ok a := by
  rw [read, write, Json.read_compact h.isWhole]
  simp only [h.decode_encode]
  rfl

end Codec

namespace Shape

variable {α : Type} {c : Codec α} {shape : Shape} {body : Octets}

theorem isBlankOctet_of_starts {b : UInt8} (h : Json.Reader.Starts b) :
    isBlankOctet b = false := by
  have hne : ∀ d : UInt8, d.toNat ≤ 32 → b ≠ d := by
    rintro d hd rfl
    have := h.printable
    omega
  rw [isBlankOctet]
  simp [hne 32 (by decide), hne 9 (by decide), hne 10 (by decide), hne 12 (by decide),
    hne 13 (by decide)]

/-- No value has a blank text. -/
theorem all_isBlankOctet_write {a : α} (h : (c.encode a).IsWhole) :
    (c.write a).all isBlankOctet = false := by
  obtain ⟨b, s, htext, hb⟩ := Json.Reader.exists_text_eq h
  have hwrite : c.write a = b :: s := by
    rw [Codec.write, octetsOf, Json.Value.compact, String.toList_ofList, htext]
  rw [hwrite, List.all_cons, isBlankOctet_of_starts hb, Bool.false_and]

theorem read_of_not_blank (hshape : shape ≠ .empty) (hbody : body.all isBlankOctet = false) :
    shape.read c body = (c.read body).mapError .content := by
  rw [read, if_neg hshape, hbody]
  rfl

/-- The text that a value was decoded from: the body, or what stands for a blank one. -/
theorem exists_text_of_read (hshape : shape ≠ .empty) (hwhole : Json.HasWholeNumbers body)
    {a : α} (h : shape.read c body = .ok a) :
    ∃ s, c.read s = .ok a ∧ Json.HasWholeNumbers s := by
  have hcontent : ∀ {s : Octets},
      (c.read s).mapError DecodeFault.content = .ok a → c.read s = .ok a := by
    intro s hs
    cases hread : c.read s with
    | error fault =>
      rw [hread] at hs
      cases hs
    | ok found =>
      rw [hread] at hs
      cases hs
      rfl
  cases hblank : body.all isBlankOctet with
  | false =>
    rw [read_of_not_blank hshape hblank] at h
    exact ⟨body, hcontent h, hwhole⟩
  | true =>
    rw [read, if_neg hshape, hblank] at h
    cases shape with
    | object => cases h
    | paginated => exact ⟨octetsOf "\x7b\x7d", hcontent h, ⟨trivial⟩⟩
    | list => exact ⟨octetsOf "[]", hcontent h, ⟨trivial⟩⟩
    | empty => exact absurd rfl hshape

theorem read_write_of_isStable (hshape : shape ≠ .empty) (hc : c.IsStable Json.maxDepth)
    (hwhole : Json.HasWholeNumbers body) {a : α} (h : shape.read c body = .ok a) :
    shape.read c (c.write a) = .ok a := by
  obtain ⟨s, hs, hwhole⟩ := exists_text_of_read hshape hwhole h
  have ha := hc (Nat.le_refl _) hwhole.isWhole_root (Codec.decode_root_of_read hs)
  rw [read_of_not_blank hshape (all_isBlankOctet_write ha.isWhole), ha.read_eq]
  rfl

end Shape

/-- How records come: alone, in a list or in a page of a list. -/
inductive Packing where
  | alone | list | page
  deriving DecidableEq, Repr

namespace Packing

def shape : Packing → Shape
  | alone => .object
  | list => .list
  | page => .paginated

/-- What is decoded from records of a kind. -/
def Carrier (m : Resource) : Packing → Type
  | alone => m.Record
  | list => List m.Record
  | page => Paginated m.Record

def codec (m : Resource) : (p : Packing) → Codec (p.Carrier m)
  | alone => m.codec
  | list => Codec.list m.codec
  | page => Paginated.codec m.codec

theorem isStable_codec (m : Resource) (p : Packing) : (p.codec m).IsStable Json.maxDepth := by
  cases p with
  | alone => exact @Resource.isStable_codec 122 m
  | list => exact Codec.isStable_list (@Resource.isStable_codec 121 m)
  | page => exact Paginated.isStable_codec (@Resource.isStable_codec 120 m)

theorem shape_ne_empty (p : Packing) : p.shape ≠ .empty := by
  cases p <;> decide

/-- What was decoded from any body is decoded from its own text, and written as that again. -/
theorem read_write (p : Packing) (m : Resource) {body : Octets} {v : p.Carrier m}
    (hwhole : Json.HasWholeNumbers body) (h : p.shape.read (p.codec m) body = .ok v) :
    p.shape.read (p.codec m) ((p.codec m).write v) = .ok v ∧
      (p.shape.read (p.codec m) ((p.codec m).write v)).map (p.codec m).write =
        .ok ((p.codec m).write v) := by
  have hread := Shape.read_write_of_isStable p.shape_ne_empty (isStable_codec m p) hwhole h
  refine ⟨hread, ?_⟩
  rw [hread]
  rfl

/-- A page that says nothing about the list, with a record of reordered and surplus members. -/
def openPage : Octets := octetsOf
  "\x7b\"results\":[\x7b\"x\":\x7b\"b\":-3,\"a\":null\x7d,\"pk\":7,\"name\":\"\\u00e9\"\x7d]\x7d"

def openRecords : Paginated DeviceRecord where
  results := [⟨7, "é", .ofPairs [
    ("x", .object [("a", .null), ("b", .number (.integer (-3)))])]⟩]

set_option maxRecDepth 10000 in
theorem read_write_of_openPage :
    Json.HasWholeNumbers openPage ∧
      page.shape.read (page.codec .deviceRecord) openPage = .ok openRecords ∧
      page.shape.read (page.codec .deviceRecord) ((page.codec .deviceRecord).write openRecords) =
        .ok openRecords := by
  have hwhole : Json.HasWholeNumbers openPage := by
    constructor
    cbv
    repeat' constructor
  have hread : page.shape.read (page.codec .deviceRecord) openPage = .ok openRecords := by cbv
  exact ⟨hwhole, hread, (read_write page .deviceRecord hwhole hread).1⟩

end Packing

end IdentityApi
