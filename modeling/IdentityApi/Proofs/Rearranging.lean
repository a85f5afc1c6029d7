import IdentityApi.Proofs.Codec.Shuffling
import IdentityApi.Proofs.Elements

/-! # Bodies with their members rearranged

A body whose objects have distinct names is decoded in whichever order the members of its objects
stand, and a record is decoded with whatever members it has beside its own. Only a record that keeps
every member tells these apart (`Packing.read_rearranged`).
-/
namespace IdentityApi

open Codec
open Json (IsText Tree)

/-! ## All records ignore shuffling -/

@[simp] theorem GroupMember.ignoresShuffling_codec : GroupMember.codec.IgnoresShuffling :=
  ignoresShuffling_record (by decide) (by simp [columns]) (by simp [columns])

@[simp] theorem UserGroup.ignoresShuffling_codec : UserGroup.codec.IgnoresShuffling :=
  ignoresShuffling_record (by decide) (by simp [columns]) (by simp [columns])

@[simp] theorem UserSelfGroup.ignoresShuffling_codec : UserSelfGroup.codec.IgnoresShuffling :=
  ignoresShuffling_record (by decide) (by simp [columns]) (by simp [columns])

@[simp] theorem UserSelf.ignoresShuffling_codec : UserSelf.codec.IgnoresShuffling :=
  ignoresShuffling_record (by decide) (by simp [columns]) (by simp [columns])

@[simp] theorem SystemRuntime.ignoresShuffling_codec : SystemRuntime.codec.IgnoresShuffling :=
  ignoresShuffling_record (by decide) (by simp [columns]) (by simp [columns])

@[simp] theorem PaginationMeta.ignoresShuffling_codec : PaginationMeta.codec.IgnoresShuffling :=
  ignoresShuffling_record (by decide) (by simp [columns]) (by simp [columns])

namespace Resource

theorem ignoresShuffling_columns (m : Resource) : ∀ c ∈ m.columns, c.codec.IgnoresShuffling := by
  cases m <;>
    simp [columns, App.columns, Application.columns, Device.columns, DeviceRecord.columns,
      Event.columns, EventTopPerUser.columns, Flow.columns, Group.columns, GroupMember.columns,
      PolicyTestResult.columns, SessionUser.columns, SystemInfo.columns, SystemRuntime.columns,
      Token.columns, TokenView.columns, TypeCreate.columns, UsedBy.columns, User.columns,
      UserGroup.columns, UserPath.columns, UserSelf.columns, UserSelfGroup.columns,
      Version.columns]

theorem ignoresShuffling_codec (m : Resource) : m.codec.IgnoresShuffling :=
  codec_of_columns (L := IgnoresShuffling) ignoresShuffling_map
    (fun _ => ignoresShuffling_row m.nodup_wireNames m.isStrict_columns m.ignoresShuffling_columns)
    fun _ => ignoresShuffling_openRow m.nodup_wireNames m.isStrict_columns
      m.ignoresShuffling_columns

end Resource

theorem Paginated.ignoresShuffling_codec {α : Type} {c : Codec α} (hstrict : c.IsStrict)
    (hc : c.IgnoresShuffling) : (Paginated.codec c).IgnoresShuffling :=
  ignoresShuffling_record (by simp [columns, withDefault]) (isStrict_columns hstrict)
    (by simp [columns, hc])

theorem Packing.ignoresShuffling_codec (p : Packing) (m : Resource) :
    (p.codec m).IgnoresShuffling := by
  have hc := m.ignoresShuffling_codec
  cases p with
  | alone => exact hc
  | list => exact ignoresShuffling_list hc
  | page => exact Paginated.ignoresShuffling_codec m.isStrict_codec hc

/-- In a body whose objects have distinct names the members may stand in any order, at any depth. The
object of a record may also hold any members with other names than its own, unless the record keeps
every member. -/
theorem Resource.reads_rearranged (m : Resource) :
    (∀ (p : Packing) {body body' : Octets} {t t' : Tree}, IsText body t → IsText body' t' →
      t.Shuffled t' → t.IsUnambiguous → ∀ v,
        p.shape.read (p.codec m) body = .ok v ↔ p.shape.read (p.codec m) body' = .ok v) ∧
      (m ≠ .deviceRecord → ∀ {body body' : Octets}
        {members members' extra : List (Except Json.Fault String × Tree)},
          IsText body (.object members .closed) → IsText body' (.object members' .closed) →
            members'.Perm (members ++ extra) →
              (∀ e ∈ extra, ∃ k, e.1 = .ok k ∧ k ∉ m.wireNames) → ∀ a,
                m.codec.Reads body a ↔ m.codec.Reads body' a) := by
  constructor
  · intro p body body' t t' hbody hbody' hshuffled hunambiguous v
    rw [Shape.read_iff_of_isText p.shape_ne_empty hbody,
      Shape.read_iff_of_isText p.shape_ne_empty hbody']
    exact (p.ignoresShuffling_codec m).decode_iff hshuffled hunambiguous
  · intro hm body body' members members' extra hbody hbody' hperm hextra a
    have hclosed : ∀ e ∈ extra, e.2.IsClosed := fun e he =>
      Tree.isClosed_of_mem_members hbody'.isClosed.2 e
        (hperm.mem_iff.mpr (List.mem_append_right _ he))
    obtain ⟨record, f, g, hcodec⟩ := Resource.exists_codec_eq hm
    rw [Codec.Reads, Codec.Reads, Shape.read_iff_of_isText (by decide) hbody,
      Shape.read_iff_of_isText (by decide) hbody', hcodec]
    have hrow : ∀ r, (row record m.columns).decode Json.maxDepth (.object members .closed) = .ok r ↔
        (row record m.columns).decode Json.maxDepth (.object members' .closed) = .ok r :=
      fun r => decode_row_added m.nodup_wireNames m.isStrict_columns hperm hextra hclosed
    constructor
    · intro ha
      obtain ⟨r, hr, rfl⟩ := Json.ok_of_map ha
      exact Json.map_eq_ok_iff.mpr ⟨r, (hrow r).mp hr, rfl⟩
    · intro ha
      obtain ⟨r, hr, rfl⟩ := Json.ok_of_map ha
      exact Json.map_eq_ok_iff.mpr ⟨r, (hrow r).mpr hr, rfl⟩

/-- A body, the same with all members in another order, and that with two more members. -/
def topEvents : List Octets := [
  octetsOf ("\x7b\"application\":\x7b\"a\":1,\"b\":[]\x7d,\"counted_events\":5," ++
    "\"unique_users\":4\x7d"),
  octetsOf ("\x7b\"unique_users\":4,\"application\":\x7b\"b\":[],\"a\":1\x7d," ++
    "\"counted_events\":5\x7d"),
  octetsOf ("\x7b\"app\":[],\"unique_users\":4,\"application\":\x7b\"b\":[],\"a\":1\x7d," ++
    "\"counted_events\":5,\"app\":0\x7d")]

/-- The members of the application. -/
def topApplication : List (Except Json.Fault String × Tree) :=
  [(.ok "a", .number (.ok (.integer 1))), (.ok "b", .array [] .closed)]

/-- The members of the body with this application. -/
def topMembers (application : List (Except Json.Fault String × Tree)) :
    List (Except Json.Fault String × Tree) := [
  (.ok "application", .object application .closed),
  (.ok "counted_events", .number (.ok (.integer 5))),
  (.ok "unique_users", .number (.ok (.integer 4)))]

theorem topMembers_shuffled {application application' : List (Except Json.Fault String × Tree)}
    (h : application.Perm application') :
    Tree.Shuffled (.object (topMembers application) .closed)
      (.object ((topMembers application').rotate 2) .closed) := by
  have hsame : List.Forall₂ (Tree.Keyed Tree.Shuffled) application application :=
    List.forall₂_same.mpr fun m _ => .intro (.refl m.2)
  refine .inObject ?_ (List.rotate_perm _ 2).symm
  exact .cons (.intro (.inObject hsame h))
    (.cons (.intro (.refl _)) (.cons (.intro (.refl _)) .nil))

set_option maxRecDepth 10000 in
theorem Resource.reads_rearranged_topEvents :
    ∃ a : EventTopPerUser, ∀ body ∈ topEvents, EventTopPerUser.codec.Reads body a := by
  have htext : ∀ {s : Octets} {members : List (Except Json.Fault String × Tree)},
      Json.read s = ⟨.object members .closed, false⟩ → Tree.HoldClosed members →
        IsText s (.object members .closed) :=
    fun hread h => Json.isText_iff.mpr ⟨hread, rfl, h⟩
  have happlication : (Tree.object topApplication .closed).IsClosed :=
    ⟨rfl, trivial, ⟨rfl, trivial⟩, trivial⟩
  have hreverse : (Tree.object topApplication.reverse .closed).IsClosed :=
    ⟨rfl, ⟨rfl, trivial⟩, trivial, trivial⟩
  have hfirst : IsText topEvents[0] (.object (topMembers topApplication) .closed) :=
    htext rfl ⟨happlication, trivial, trivial, trivial⟩
  have hsecond : IsText topEvents[1]
      (.object ((topMembers topApplication.reverse).rotate 2) .closed) :=
    htext rfl ⟨trivial, hreverse, trivial, trivial⟩
  have hthird : IsText topEvents[2]
      (.object ((.ok "app", .array [] .closed) ::
        ((topMembers topApplication.reverse).rotate 2 ++ [(.ok "app", .number (.ok (.integer 0)))]))
        .closed) :=
    htext rfl ⟨⟨rfl, trivial⟩, trivial, hreverse, trivial, trivial, trivial⟩
  have hdistinct : (Tree.object (topMembers topApplication) .closed).IsUnambiguous :=
    ⟨rfl, by decide, ⟨rfl, by decide, trivial, ⟨rfl, trivial⟩, trivial⟩, trivial, trivial, trivial⟩
  have hread : EventTopPerUser.codec.Reads topEvents[0]
      ⟨.ofPairs [("a", .number (.integer 1)), ("b", .array [])], 5, 4⟩ :=
    (Shape.read_iff_of_isText (by decide) hfirst).mpr rfl
  have happ : "app" ∉ Resource.eventTopPerUser.wireNames := by decide
  have hshuffled := ((Resource.reads_rearranged .eventTopPerUser).1 .alone hfirst hsecond
    (topMembers_shuffled (List.reverse_perm _).symm) hdistinct _).mp hread
  have hadded := ((Resource.reads_rearranged .eventTopPerUser).2 (by decide) hsecond hthird
    List.perm_middle.symm (List.forall_mem_cons.mpr ⟨⟨"app", rfl, happ⟩,
      List.forall_mem_cons.mpr ⟨⟨"app", rfl, happ⟩, List.forall_mem_nil _⟩⟩) _).mp hshuffled
  refine ⟨_, List.forall_mem_cons.mpr ⟨hread, List.forall_mem_cons.mpr ⟨hshuffled, ?_⟩⟩⟩
  exact List.forall_mem_cons.mpr ⟨hadded, List.forall_mem_nil _⟩

end IdentityApi
