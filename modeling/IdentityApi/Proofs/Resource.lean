import IdentityApi.Proofs.Codec.Record
import IdentityApi.Resource

/-! # All resources are stable

Every record of the service has columns with names of their own, and each column reads, and assumes,
values that are settled. So the records of every kind are stable, alone, in lists and in pages.
-/
namespace IdentityApi

open Codec

instance : Choice.Lawful FlowDesignation := ⟨fun a => by cases a <;> decide⟩

instance : Choice.Lawful PolicyEngineMode := ⟨fun a => by cases a <;> decide⟩

instance : Choice.Lawful TokenIntent := ⟨fun a => by cases a <;> decide⟩

instance : Choice.Lawful UsedByAction := ⟨fun a => by cases a <;> decide⟩

instance : Choice.Lawful UserType := ⟨fun a => by cases a <;> decide⟩

/-! ## Records inside other records -/

variable {depth : Nat}

@[simp] theorem GroupMember.isStable_codec : GroupMember.codec.IsStable (depth + 2) :=
  isStable_record (by decide) (by simp [columns]) fun _ => rfl

@[simp] theorem UserGroup.isStable_codec : UserGroup.codec.IsStable (depth + 2) :=
  isStable_record (by decide) (by simp [columns]) fun _ => rfl

@[simp] theorem UserSelfGroup.isStable_codec : UserSelfGroup.codec.IsStable (depth + 2) :=
  isStable_record (by decide) (by simp [columns]) fun _ => rfl

@[simp] theorem UserSelf.isStable_codec : UserSelf.codec.IsStable (depth + 4) :=
  isStable_record (by decide) (by simp [columns]) fun _ => rfl

@[simp] theorem UserSelf.neverNull_codec : NeverNull UserSelf.codec := neverNull_record

theorem SystemRuntime.isStable_codec : SystemRuntime.codec.IsStable (depth + 2) :=
  isStable_record (by decide) (by simp [columns]) fun _ => rfl

/-- A runtime of which nothing is known. -/
theorem SystemRuntime.isSettled_default {d : Nat} (hd : 1 ≤ d) :
    SystemRuntime.codec.IsSettled d {} := by
  obtain ⟨d, rfl⟩ := Nat.exists_eq_add_of_le' hd
  refine isSettled_record (by decide) ?_ rfl
  simp [columns, Row.IsSettled, withDefault]

/-- The runtime may be missing. -/
@[simp] theorem SystemRuntime.isStable_column {name : String} :
    (withDefault name SystemRuntime.codec {}).IsStable (depth + 2) :=
  isStable_withRecord isStable_codec fun hd => isSettled_default (by omega)

theorem PaginationMeta.isStable_codec : PaginationMeta.codec.IsStable (depth + 2) :=
  isStable_record (by decide) (by simp [columns]) fun _ => rfl

theorem PaginationMeta.isSettled_default {d : Nat} (hd : 1 ≤ d) :
    PaginationMeta.codec.IsSettled d {} := by
  obtain ⟨d, rfl⟩ := Nat.exists_eq_add_of_le' hd
  refine isSettled_record (by decide) ?_ rfl
  simp [columns, Row.IsSettled, withDefault]

/-! ## All kinds -/

theorem Resource.isStable_codec (m : Resource) : m.codec.IsStable (depth + 5) := by
  cases m with
  | deviceRecord =>
    exact isStable_map (isStable_openRow (by decide) (by simp [DeviceRecord.columns])) fun _ => rfl
  | _ =>
    exact isStable_record (by decide)
      (by
        simp [App.columns, Application.columns, Device.columns, Event.columns,
          EventTopPerUser.columns, Flow.columns, Group.columns, GroupMember.columns,
          PolicyTestResult.columns, SessionUser.columns, SystemInfo.columns,
          SystemRuntime.columns, Token.columns, TokenView.columns, TypeCreate.columns,
          UsedBy.columns, User.columns, UserGroup.columns, UserPath.columns, UserSelf.columns,
          UserSelfGroup.columns, Version.columns])
      fun _ => rfl

theorem Paginated.isStable_codec {α : Type} {c : Codec α} (hc : c.IsStable (depth + 1)) :
    (Paginated.codec c).IsStable (depth + 3) := by
  refine isStable_record (by simp [columns, withDefault]) ?_ fun _ => rfl
  rw [columns, List.forall_mem_cons, List.forall_mem_singleton]
  exact ⟨isStable_withRecord PaginationMeta.isStable_codec fun hd =>
    PaginationMeta.isSettled_default (by omega), isStable_withNil hc⟩

end IdentityApi
