import IdentityApi.Endpoint
import IdentityApi.Log.Line
import IdentityApi.Resource.Basic
import IdentityApi.Resource.Group
import IdentityApi.Resource.User
import IdentityApi.Transport

/-! # Operations on users and groups

What is asked about users, each named by a number, and about groups and their members.
-/
namespace IdentityApi

/-! ## Users -/

inductive UserOperation where
  | list (filter : UserFilter)
  | retrieve (id : Int64)
  | create (request : UserRequest)
  | update (id : Int64) (request : UserRequest)
  | partialUpdate (id : Int64) (request : PatchedUserRequest)
  | destroy (id : Int64)
  /-- The user whose token is used. -/
  | me
  | setPassword (id : Int64) (request : UserPasswordSetRequest)
  | usedBy (id : Int64)
  | paths (search : Option String)

namespace UserOperation

/-- What an operation gives. -/
def Result : UserOperation → Type
  | .list _ => Paginated User
  | .retrieve _ | .create _ | .update _ _ | .partialUpdate _ _ => User
  | .destroy _ | .setPassword _ _ => Unit
  | .me => SessionUser
  | .usedBy _ => List UsedBy
  | .paths _ => UserPath

def plan : (o : UserOperation) → Plan o.Result
  | .list filter => ⟨.usersList, { query := filter.toQuery }, Paginated.codec User.codec⟩
  | .retrieve id => ⟨.usersRetrieve, { path := [("id", QueryValue.text id)] }, User.codec⟩
  | .create request => ⟨.usersCreate, { body := some request.toJson }, User.codec⟩
  | .update id request =>
    ⟨.usersUpdate,
      { path := [("id", QueryValue.text id)], body := some request.toJson },
      User.codec⟩
  | .partialUpdate id request =>
    ⟨.usersPartialUpdate,
      { path := [("id", QueryValue.text id)], body := some request.toJson },
      User.codec⟩
  | .destroy id => ⟨.usersDestroy, { path := [("id", QueryValue.text id)] }, .unit⟩
  | .me => ⟨.usersMe, {}, SessionUser.codec⟩
  | .setPassword id request =>
    ⟨.usersSetPassword,
      { path := [("id", QueryValue.text id)], body := some request.toJson },
      .unit⟩
  | .usedBy id => ⟨.usersUsedBy, { path := [("id", QueryValue.text id)] }, .list UsedBy.codec⟩
  | .paths search => ⟨.usersPaths, { query := Query.empty.push "search" search }, UserPath.codec⟩

/-- The part of the program that spans of these operations belong to. -/
def target : String := "authentik_client::api::users"

def span (name : String) (values : List (String × String)) : Log.Span :=
  Log.Span.ofValues target name values

/-- The span of an operation in the log; some have none. -/
def span? : UserOperation → Option Log.Span
  | .retrieve id => some (span "retrieve_user" [("id", QueryValue.text id)])
  | .update id _ => some (span "update_user" [("id", QueryValue.text id)])
  | .partialUpdate id _ => some (span "partial_update_user" [("id", QueryValue.text id)])
  | .destroy id => some (span "destroy_user" [("id", QueryValue.text id)])
  | .setPassword id _ => some (span "set_password" [("id", QueryValue.text id)])
  | _ => none

end UserOperation

/-! ## Groups -/

inductive GroupOperation where
  | list (filter : GroupFilter)
  | retrieve (uuid : Uuid)
  | create (request : GroupRequest)
  | update (uuid : Uuid) (request : GroupRequest)
  | partialUpdate (uuid : Uuid) (request : PatchedGroupRequest)
  | destroy (uuid : Uuid)
  | addUser (uuid : Uuid) (user : Int64)
  | removeUser (uuid : Uuid) (user : Int64)
  | usedBy (uuid : Uuid)

namespace GroupOperation

/-- What an operation gives. -/
def Result : GroupOperation → Type
  | .list _ => Paginated Group
  | .retrieve _ | .create _ | .update _ _ | .partialUpdate _ _ => Group
  | .destroy _ | .addUser _ _ | .removeUser _ _ => Unit
  | .usedBy _ => List UsedBy

def plan : (o : GroupOperation) → Plan o.Result
  | .list filter => ⟨.groupsList, { query := filter.toQuery }, Paginated.codec Group.codec⟩
  | .retrieve uuid => ⟨.groupsRetrieve, { path := [("group_uuid", uuid.text)] }, Group.codec⟩
  | .create request => ⟨.groupsCreate, { body := some request.toJson }, Group.codec⟩
  | .update uuid request =>
    ⟨.groupsUpdate,
      { path := [("group_uuid", uuid.text)], body := some request.toJson },
      Group.codec⟩
  | .partialUpdate uuid request =>
    ⟨.groupsPartialUpdate,
      { path := [("group_uuid", uuid.text)], body := some request.toJson },
      Group.codec⟩
  | .destroy uuid => ⟨.groupsDestroy, { path := [("group_uuid", uuid.text)] }, .unit⟩
  | .addUser uuid user =>
    ⟨.groupsAddUser,
      { path := [("group_uuid", uuid.text)], body := some (UserAccountRequest.toJson ⟨user⟩) },
      .unit⟩
  | .removeUser uuid user =>
    ⟨.groupsRemoveUser,
      { path := [("group_uuid", uuid.text)], body := some (UserAccountRequest.toJson ⟨user⟩) },
      .unit⟩
  | .usedBy uuid => ⟨.groupsUsedBy, { path := [("group_uuid", uuid.text)] }, .list UsedBy.codec⟩

/-- The part of the program that spans of these operations belong to. -/
def target : String := "authentik_client::api::groups"

def span (name : String) (values : List (String × String)) : Log.Span :=
  Log.Span.ofValues target name values

/-- The span of an operation in the log; some have none. -/
def span? : GroupOperation → Option Log.Span
  | .retrieve uuid => some (span "retrieve_group" [("group_uuid", uuid.text)])
  | .update uuid _ => some (span "update_group" [("group_uuid", uuid.text)])
  | .partialUpdate uuid _ => some (span "partial_update_group" [("group_uuid", uuid.text)])
  | .destroy uuid => some (span "destroy_group" [("group_uuid", uuid.text)])
  | .addUser uuid user =>
    some (span "add_user_to_group" [("group_uuid", uuid.text), ("user_pk", QueryValue.text user)])
  | .removeUser uuid user =>
    some (span "remove_user_from_group"
      [("group_uuid", uuid.text), ("user_pk", QueryValue.text user)])
  | _ => none

end GroupOperation

end IdentityApi
