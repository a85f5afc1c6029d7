import IdentityApi.Proofs.Codec.Strict
import IdentityApi.Resource

/-! # The columns of records

Every kind of record is a row of its columns, and those that keep every member are an open row. So
a law that rows keep holds of all records as soon as it holds of their columns
(`Resource.codec_of_columns`). The columns of a record have distinct names and are strict.
-/
namespace IdentityApi

open Codec

namespace Resource

/-- The columns of the records of a kind. -/
def columns : Resource → List Column
  | app => App.columns
  | application => Application.columns
  | device => Device.columns
  | deviceRecord => DeviceRecord.columns
  | event => Event.columns
  | eventTopPerUser => EventTopPerUser.columns
  | flow => Flow.columns
  | group => Group.columns
  | groupMember => GroupMember.columns
  | policyTestResult => PolicyTestResult.columns
  | sessionUser => SessionUser.columns
  | systemInfo => SystemInfo.columns
  | systemRuntime => SystemRuntime.columns
  | token => Token.columns
  | tokenView => TokenView.columns
  | typeCreate => TypeCreate.columns
  | usedBy => UsedBy.columns
  | user => User.columns
  | userGroup => UserGroup.columns
  | userPath => UserPath.columns
  | userSelf => UserSelf.columns
  | userSelfGroup => UserSelfGroup.columns
  | version => Version.columns

/-- The names that the members of a record have in a body. -/
def wireNames (m : Resource) : List String := m.columns.map Column.name

theorem nodup_wireNames (m : Resource) : m.wireNames.Nodup := by
  cases m <;> decide

/-- All records but those that keep every member are rows. -/
theorem exists_codec_eq {m : Resource} (hm : m ≠ .deviceRecord) :
    ∃ record f g, m.codec = (row record m.columns).map f g := by
  cases m with
  | deviceRecord => exact absurd rfl hm
  | _ => exact ⟨_, _, _, rfl⟩

/-- A law that the rows of the columns keep, open or not, holds of the codec. -/
theorem codec_of_columns {L : ∀ {α : Type}, Codec α → Prop}
    (hmap : ∀ {α β : Type} {c : Codec α} {f : α → β} {g : β → α}, L c → L (c.map f g))
    {m : Resource} (hrow : ∀ record, L (row record m.columns))
    (hopen : ∀ record, L (openRow record m.columns)) : L m.codec := by
  by_cases hm : m = .deviceRecord
  · obtain rfl := hm
    exact hmap (hopen _)
  · obtain ⟨record, f, g, hcodec⟩ := exists_codec_eq hm
    rw [hcodec]
    exact hmap (hrow record)

end Resource

/-! ## All records are strict -/

@[simp] theorem GroupMember.isStrict_codec : GroupMember.codec.IsStrict :=
  isStrict_record (by simp [columns])

@[simp] theorem UserGroup.isStrict_codec : UserGroup.codec.IsStrict :=
  isStrict_record (by simp [columns])

@[simp] theorem UserSelfGroup.isStrict_codec : UserSelfGroup.codec.IsStrict :=
  isStrict_record (by simp [columns])

@[simp] theorem UserSelf.isStrict_codec : UserSelf.codec.IsStrict :=
  isStrict_record (by simp [columns])

@[simp] theorem SystemRuntime.isStrict_codec : SystemRuntime.codec.IsStrict :=
  isStrict_record (by simp [columns])

@[simp] theorem PaginationMeta.isStrict_codec : PaginationMeta.codec.IsStrict :=
  isStrict_record (by simp [columns])

namespace Resource

theorem isStrict_columns (m : Resource) : ∀ c ∈ m.columns, c.codec.IsStrict := by
  cases m <;>
    simp [columns, App.columns, Application.columns, Device.columns, DeviceRecord.columns,
      Event.columns, EventTopPerUser.columns, Flow.columns, Group.columns, GroupMember.columns,
      PolicyTestResult.columns, SessionUser.columns, SystemInfo.columns, SystemRuntime.columns,
      Token.columns, TokenView.columns, TypeCreate.columns, UsedBy.columns, User.columns,
      UserGroup.columns, UserPath.columns, UserSelf.columns, UserSelfGroup.columns,
      Version.columns]

theorem isStrict_codec (m : Resource) : m.codec.IsStrict :=
  codec_of_columns (L := IsStrict) isStrict_map (fun _ => isStrict_row m.isStrict_columns)
    fun _ => isStrict_openRow m.isStrict_columns

end Resource

end IdentityApi
