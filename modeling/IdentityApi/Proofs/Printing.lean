import IdentityApi.Proofs.Codec.Sorting
import IdentityApi.Proofs.Json.Printing
import IdentityApi.Proofs.Page

/-! # Printed results are decoded again

The records of the service, but those that keep every member, are read from sorted members as from
any others, alone, in lists and in pages. So what was decoded from a body with whole numbers is also
decoded from the text that is printed of it.
-/
namespace IdentityApi

open Codec

/-! ## All records ignore the order of members -/

@[simp] theorem GroupMember.ignoresOrder_codec : GroupMember.codec.IgnoresOrder :=
  ignoresOrder_record (by decide) (by simp [columns])

@[simp] theorem UserGroup.ignoresOrder_codec : UserGroup.codec.IgnoresOrder :=
  ignoresOrder_record (by decide) (by simp [columns])

@[simp] theorem UserSelfGroup.ignoresOrder_codec : UserSelfGroup.codec.IgnoresOrder :=
  ignoresOrder_record (by decide) (by simp [columns])

@[simp] theorem UserSelf.ignoresOrder_codec : UserSelf.codec.IgnoresOrder :=
  ignoresOrder_record (by decide) (by simp [columns])

@[simp] theorem SystemRuntime.ignoresOrder_codec : SystemRuntime.codec.IgnoresOrder :=
  ignoresOrder_record (by decide) (by simp [columns])

@[simp] theorem PaginationMeta.ignoresOrder_codec : PaginationMeta.codec.IgnoresOrder :=
  ignoresOrder_record (by decide) (by simp [columns])

theorem Resource.ignoresOrder_columns (m : Resource) :
    ∀ c ∈ m.columns, c.codec.IgnoresOrder := by
  cases m <;>
    simp [columns, App.columns, Application.columns, Device.columns, DeviceRecord.columns,
      Event.columns, EventTopPerUser.columns, Flow.columns, Group.columns, GroupMember.columns,
      PolicyTestResult.columns, SessionUser.columns, SystemInfo.columns, SystemRuntime.columns,
      Token.columns, TokenView.columns, TypeCreate.columns, UsedBy.columns, User.columns,
      UserGroup.columns, UserPath.columns, UserSelf.columns, UserSelfGroup.columns,
      Version.columns]

theorem Resource.ignoresOrder_codec {m : Resource} (hm : m ≠ .deviceRecord) :
    m.codec.IgnoresOrder := by
  obtain ⟨record, f, g, hcodec⟩ := exists_codec_eq hm
  rw [hcodec]
  apply ignoresOrder_record m.nodup_wireNames
  exact fun c hc => ⟨m.isStrict_columns c hc, m.ignoresOrder_columns c hc⟩

theorem Paginated.ignoresOrder_codec {α : Type} {c : Codec α} (hstrict : c.IsStrict)
    (hc : c.IgnoresOrder) : (Paginated.codec c).IgnoresOrder :=
  ignoresOrder_record (by simp [columns, withDefault]) (by simp [columns, hstrict, hc])

theorem Packing.ignoresOrder_codec {m : Resource} (hm : m ≠ .deviceRecord) (p : Packing) :
    (p.codec m).IgnoresOrder := by
  have hc := Resource.ignoresOrder_codec hm
  cases p with
  | alone => exact hc
  | list => exact ignoresOrder_list hc
  | page => exact Paginated.ignoresOrder_codec m.isStrict_codec hc

/-! ## Printed texts -/

section Texts

variable {α : Type} {c : Codec α}

/-- The text that is printed of a value. -/
def Codec.print (c : Codec α) (a : α) : Octets :=
  octetsOf ((c.encode a).sorted.pretty ++ "\n")

namespace Shape

variable {shape : Shape} {body : Octets}

theorem all_isBlankOctet_print {a : α} (h : (c.encode a).IsWhole) :
    (c.print a).all isBlankOctet = false := by
  obtain ⟨b, s, htext, hb⟩ :=
    Json.Reader.exists_prettyChars_eq (Json.Value.isWhole_sorted _ h) 0
  have hprint : c.print a = b :: (s ++ [10]) := by
    rw [Codec.print, Json.octetsOf_pretty, htext, List.cons_append]
  rw [hprint, List.all_cons, isBlankOctet_of_starts hb, Bool.false_and]

/-- What a stable codec that ignores order decodes from a body with whole numbers, it decodes from
the printed text as well. -/
theorem read_print (hshape : shape ≠ .empty) (hstable : c.IsStable Json.maxDepth)
    (horder : c.IgnoresOrder) (hwhole : Json.HasWholeNumbers body) {a : α}
    (h : shape.read c body = .ok a) : shape.read c (c.print a) = .ok a := by
  obtain ⟨s, hs, hwhole⟩ := exists_text_of_read hshape hwhole h
  obtain ⟨hdecode, hencode⟩ :=
    hstable (Nat.le_refl _) hwhole.isWhole_root (Codec.decode_root_of_read hs)
  have hread : c.read (c.print a) = .ok a := by
    rw [Codec.read, Codec.print, Json.read_pretty (Json.Value.isWhole_sorted _ hencode)]
    simp only [horder hencode hdecode]
    rfl
  rw [read_of_not_blank hshape (all_isBlankOctet_print hencode), hread]
  rfl

end Shape

/-- What is decoded from a body with whole numbers is decoded from its printed text. -/
theorem Packing.read_print {m : Resource} (hm : m ≠ .deviceRecord) (p : Packing) {body : Octets}
    (hwhole : Json.HasWholeNumbers body) {v : p.Carrier m}
    (h : p.shape.read (p.codec m) body = .ok v) :
    p.shape.read (p.codec m) ((p.codec m).print v) = .ok v :=
  Shape.read_print p.shape_ne_empty (isStable_codec m p) (ignoresOrder_codec hm p) hwhole h

end Texts

end IdentityApi
