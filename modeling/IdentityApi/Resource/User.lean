import IdentityApi.Codec.Basic
import IdentityApi.Codec.Record
import IdentityApi.Query

/-! # Users

Users, the session of the token's own user, what is sent to make or change a user, and the filter
of their list. Passwords never show in diagnostics.
-/
namespace IdentityApi

open Codec Query

inductive UserType where
  | internal | external | serviceAccount | internalServiceAccount
  deriving DecidableEq, Repr

instance : Choice UserType where
  all := [.internal, .external, .serviceAccount, .internalServiceAccount]
  name
    | .internal => "internal"
    | .external => "external"
    | .serviceAccount => "service_account"
    | .internalServiceAccount => "internal_service_account"

structure UserGroup where
  pk : Uuid
  numPk : Int64
  name : String
  isSuperuser : Bool
  parent : Option Uuid
  parentName : Option String
  attributes : Json.Value

namespace UserGroup

def columns : List Column := [
  required "pk" uuid,
  withDefault "num_pk" int64 0,
  required "name" string,
  withDefault "is_superuser" bool false,
  withDefault "parent" (nullable uuid) none,
  withDefault "parent_name" (nullable string) none,
  withDefault "attributes" value .null]

def codec : Codec UserGroup := (row "UserGroup" columns).map
  (fun (pk, numPk, name, isSuperuser, parent, parentName, attributes, ()) =>
    ⟨pk, numPk, name, isSuperuser, parent, parentName, attributes⟩)
  (fun r => (r.pk, r.numPk, r.name, r.isSuperuser, r.parent, r.parentName, r.attributes, ()))

end UserGroup

structure User where
  pk : Int64
  username : String
  name : String
  isActive : Bool
  lastLogin : Option Timestamp
  isSuperuser : Bool
  groups : List Uuid
  groupsObj : Option (List UserGroup)
  email : String
  avatar : String
  attributes : Json.Value
  uid : String
  path : String
  userType : UserType
  uuid : Option Uuid

namespace User

def columns : List Column := [
  required "pk" int64,
  required "username" string,
  required "name" string,
  withDefault "is_active" bool true,
  withDefault "last_login" (nullable timestamp) none,
  withDefault "is_superuser" bool false,
  withDefault "groups" (list Codec.uuid) [],
  withDefault "groups_obj" (nullable (list UserGroup.codec)) none,
  withDefault "email" string "",
  withDefault "avatar" string "",
  withDefault "attributes" value .null,
  withDefault "uid" string "",
  withDefault "path" string "",
  withDefault "type" (choice UserType) .internal,
  withDefault "uuid" (nullable Codec.uuid) none]

def codec : Codec User := (row "User" columns).map
  (fun (pk, username, name, isActive, lastLogin, isSuperuser, groups, groupsObj, email, avatar,
      attributes, uid, path, userType, uuid, ()) =>
    ⟨pk, username, name, isActive, lastLogin, isSuperuser, groups, groupsObj, email, avatar,
    attributes, uid, path, userType, uuid⟩)
  (fun r => (r.pk, r.username, r.name, r.isActive, r.lastLogin, r.isSuperuser, r.groups,
      r.groupsObj, r.email, r.avatar, r.attributes, r.uid, r.path, r.userType, r.uuid, ()))

end User

structure UserRequest where
  username : String
  name : String
  isActive : Option Bool := none
  path : Option String := none
  email : Option String := none
  groups : List Uuid := []
  attributes : Option Json.Value := none
  userType : Option UserType := none

def UserRequest.toJson (r : UserRequest) : Json.Value := .object (
  field "username" string r.username ++
  field "name" string r.name ++
  given "is_active" bool r.isActive ++
  given "path" string r.path ++
  given "email" string r.email ++
  given "groups" (list uuid) (if r.groups.isEmpty then none else some r.groups) ++
  given "attributes" value r.attributes ++
  given "type" (choice UserType) r.userType)

structure PatchedUserRequest where
  username : Option String := none
  name : Option String := none
  isActive : Option Bool := none
  path : Option String := none
  email : Option String := none
  groups : Option (List Uuid) := none
  attributes : Option Json.Value := none
  userType : Option UserType := none

def PatchedUserRequest.toJson (r : PatchedUserRequest) : Json.Value := .object (
  given "username" string r.username ++
  given "name" string r.name ++
  given "is_active" bool r.isActive ++
  given "path" string r.path ++
  given "email" string r.email ++
  given "groups" (list uuid) r.groups ++
  given "attributes" value r.attributes ++
  given "type" (choice UserType) r.userType)

structure UserPasswordSetRequest where
  password : String

def UserPasswordSetRequest.toJson (r : UserPasswordSetRequest) : Json.Value := .object (
  field "password" string r.password)

def UserPasswordSetRequest.debugText (_ : UserPasswordSetRequest) : String :=
  "UserPasswordSetRequest \x7b password: \"***\" \x7d"

structure UserSelfGroup where
  name : String
  pk : String

namespace UserSelfGroup

def columns : List Column := [
  required "name" string,
  required "pk" string]

def codec : Codec UserSelfGroup := (row "UserSelfGroup" columns).map
  (fun (name, pk, ()) =>
    ⟨name, pk⟩)
  (fun r => (r.name, r.pk, ()))

end UserSelfGroup

structure UserSelf where
  pk : Int64
  username : String
  name : String
  isActive : Bool
  isSuperuser : Bool
  groups : List UserSelfGroup
  email : String
  avatar : String
  uid : String
  settings : Json.Value
  userType : UserType
  systemPermissions : List String

namespace UserSelf

def columns : List Column := [
  required "pk" int64,
  required "username" string,
  required "name" string,
  withDefault "is_active" bool true,
  withDefault "is_superuser" bool false,
  withDefault "groups" (list UserSelfGroup.codec) [],
  withDefault "email" string "",
  withDefault "avatar" string "",
  withDefault "uid" string "",
  withDefault "settings" value .null,
  withDefault "type" (choice UserType) .internal,
  withDefault "system_permissions" (list string) []]

def codec : Codec UserSelf := (row "UserSelf" columns).map
  (fun (pk, username, name, isActive, isSuperuser, groups, email, avatar, uid, settings,
      userType, systemPermissions, ()) =>
    ⟨pk, username, name, isActive, isSuperuser, groups, email, avatar, uid, settings, userType,
    systemPermissions⟩)
  (fun r => (r.pk, r.username, r.name, r.isActive, r.isSuperuser, r.groups, r.email, r.avatar,
      r.uid, r.settings, r.userType, r.systemPermissions, ()))

end UserSelf

structure SessionUser where
  user : UserSelf
  impersonator : Option UserSelf

namespace SessionUser

def columns : List Column := [
  required "user" UserSelf.codec,
  withDefault "original" (nullable UserSelf.codec) none]

def codec : Codec SessionUser := (row "SessionUser" columns).map
  (fun (user, impersonator, ()) =>
    ⟨user, impersonator⟩)
  (fun r => (r.user, r.impersonator, ()))

end SessionUser

/-- Someone acts as another user. -/
def SessionUser.isImpersonating (s : SessionUser) : Bool := s.impersonator.isSome

structure UserPath where
  paths : List String

namespace UserPath

def columns : List Column := [
  withDefault "paths" (list string) []]

def codec : Codec UserPath := (row "UserPath" columns).map
  (fun (paths, ()) => ⟨paths⟩)
  (fun r => (r.paths, ()))

end UserPath

structure UserFilter where
  username : Option String := none
  email : Option String := none
  name : Option String := none
  isActive : Option Bool := none
  isSuperuser : Option Bool := none
  path : Option String := none
  pathStartswith : Option String := none
  uuid : Option Uuid := none
  userTypes : List UserType := []
  groupsByName : List String := []
  groupsByPk : List Uuid := []
  includeGroups : Option Bool := none
  paging : Paging := {}
  deriving DecidableEq

def UserFilter.toQuery (f : UserFilter) : Query := ⟨
  entry "username" f.username ++
  entry "email" f.email ++
  entry "name" f.name ++
  entry "is_active" f.isActive ++
  entry "is_superuser" f.isSuperuser ++
  entry "path" f.path ++
  entry "path_startswith" f.pathStartswith ++
  entry "uuid" f.uuid ++
  entryAll "type" f.userTypes ++
  entryAll "groups_by_name" f.groupsByName ++
  entryAll "groups_by_pk" f.groupsByPk ++
  entry "include_groups" f.includeGroups ++
  f.paging.entries⟩

end IdentityApi
