import IdentityApi.Codec.Basic
import IdentityApi.Codec.Record
import IdentityApi.Query

/-! # Groups

Groups and their members, what is sent to make or change a group or to add and remove a member,
and the filter of their list.
-/
namespace IdentityApi

open Codec Query

structure GroupMember where
  pk : Int64
  username : String
  name : String
  isActive : Bool
  lastLogin : Option Timestamp
  email : String
  attributes : Json.Value
  uid : String

namespace GroupMember

def columns : List Column := [
  required "pk" int64,
  required "username" string,
  required "name" string,
  withDefault "is_active" bool false,
  withDefault "last_login" (nullable timestamp) none,
  withDefault "email" string "",
  withDefault "attributes" value .null,
  withDefault "uid" string ""]

def codec : Codec GroupMember := (row "GroupMember" columns).map
  (fun (pk, username, name, isActive, lastLogin, email, attributes, uid, ()) =>
    ⟨pk, username, name, isActive, lastLogin, email, attributes, uid⟩)
  (fun r => (r.pk, r.username, r.name, r.isActive, r.lastLogin, r.email, r.attributes, r.uid,
      ()))

end GroupMember

structure Group where
  pk : Uuid
  numPk : Int64
  name : String
  isSuperuser : Bool
  parent : Option Uuid
  parentName : Option String
  users : List Int64
  usersObj : Option (List GroupMember)
  attributes : Json.Value
  roles : List Uuid

namespace Group

def columns : List Column := [
  required "pk" uuid,
  withDefault "num_pk" int64 0,
  required "name" string,
  withDefault "is_superuser" bool false,
  withDefault "parent" (nullable uuid) none,
  withDefault "parent_name" (nullable string) none,
  withDefault "users" (list int64) [],
  withDefault "users_obj" (nullable (list GroupMember.codec)) none,
  withDefault "attributes" value .null,
  withDefault "roles" (list uuid) []]

def codec : Codec Group := (row "Group" columns).map
  (fun (pk, numPk, name, isSuperuser, parent, parentName, users, usersObj, attributes, roles,
      ()) =>
    ⟨pk, numPk, name, isSuperuser, parent, parentName, users, usersObj, attributes, roles⟩)
  (fun r => (r.pk, r.numPk, r.name, r.isSuperuser, r.parent, r.parentName, r.users, r.usersObj,
      r.attributes, r.roles, ()))

end Group

structure GroupRequest where
  name : String
  isSuperuser : Option Bool := none
  parent : Option Uuid := none
  users : Option (List Int64) := none
  attributes : Option Json.Value := none
  roles : Option (List Uuid) := none

def GroupRequest.toJson (r : GroupRequest) : Json.Value := .object (
  field "name" string r.name ++
  given "is_superuser" bool r.isSuperuser ++
  given "parent" uuid r.parent ++
  given "users" (list int64) r.users ++
  given "attributes" value r.attributes ++
  given "roles" (list uuid) r.roles)

structure PatchedGroupRequest where
  name : Option String := none
  isSuperuser : Option Bool := none
  parent : Option (Option Uuid) := none
  users : Option (List Int64) := none
  attributes : Option Json.Value := none
  roles : Option (List Uuid) := none

def PatchedGroupRequest.toJson (r : PatchedGroupRequest) : Json.Value := .object (
  given "name" string r.name ++
  given "is_superuser" bool r.isSuperuser ++
  given "parent" (nullable uuid) r.parent ++
  given "users" (list int64) r.users ++
  given "attributes" value r.attributes ++
  given "roles" (list uuid) r.roles)

/-- The user to add to a group or to remove from it. -/
structure UserAccountRequest where
  pk : Int64

def UserAccountRequest.toJson (r : UserAccountRequest) : Json.Value := .object (
  field "pk" int64 r.pk)

structure GroupFilter where
  name : Option String := none
  isSuperuser : Option Bool := none
  membersByPk : List Int64 := []
  membersByUsername : List String := []
  includeUsers : Option Bool := none
  includeChildren : Option Bool := none
  paging : Paging := {}
  deriving DecidableEq

def GroupFilter.toQuery (f : GroupFilter) : Query := ⟨
  entry "name" f.name ++
  entry "is_superuser" f.isSuperuser ++
  entryAll "members_by_pk" f.membersByPk ++
  entryAll "members_by_username" f.membersByUsername ++
  entry "include_users" f.includeUsers ++
  entry "include_children" f.includeChildren ++
  f.paging.entries⟩

end IdentityApi
