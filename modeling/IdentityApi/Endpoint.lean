import IdentityApi.Text.Basic

/-! # Endpoints

One operation of the service: its method, the template of its path below the base URL, and the shape
of the body it answers with. Paths end with a slash; a placeholder stands between braces.
-/
namespace IdentityApi

/-! ## Methods and shapes -/

inductive Method where
  | get | post | put | patch | delete
  deriving DecidableEq, Repr

namespace Method

def name : Method → String
  | get => "GET"
  | post => "POST"
  | put => "PUT"
  | patch => "PATCH"
  | delete => "DELETE"

instance : Choice Method where
  all := [get, post, put, patch, delete]
  name := name

/-- Only the methods that create or change something carry a body. -/
def allowsBody : Method → Bool
  | post | put | patch => true
  | get | delete => false

end Method

/-- The shape of a body: one object, a page of a list, a bare list, or nothing. -/
inductive Shape where
  | object | paginated | list | empty
  deriving DecidableEq, Repr

namespace Shape

def name : Shape → String
  | object => "object"
  | paginated => "paginated"
  | list => "list"
  | empty => "empty"

instance : Choice Shape where
  all := [object, paginated, list, empty]
  name := name

/-- The text that is read in place of a blank body. An object has none. -/
def blankFallback : Shape → Option String
  | object => none
  | paginated => some "\x7b\x7d"
  | list => some "[]"
  | empty => some "null"

end Shape

structure Endpoint where
  name : String
  method : Method
  /-- Relative to the base URL; a placeholder is a name in braces. -/
  path : String
  shape : Shape
  deriving DecidableEq, Repr

/-! ## The table of endpoints -/

namespace Endpoint

/-- A placeholder of a path template. -/
def slot (name : String) : String := "\x7b" ++ name ++ "\x7d"

/-- A path below the root of the interface, each segment closed by a slash. -/
def route (segments : List String) : String :=
  "api/v3/" ++ String.join (segments.map (· ++ "/"))

/-! ### Administration -/

def adminSystem : Endpoint :=
  ⟨"admin_system_retrieve", .get, route ["admin", "system"], .object⟩

def adminVersion : Endpoint :=
  ⟨"admin_version_retrieve", .get, route ["admin", "version"], .object⟩

def adminApps : Endpoint :=
  ⟨"admin_apps_list", .get, route ["admin", "apps"], .list⟩

/-! ### Authenticators -/

def authenticatorsAll : Endpoint :=
  ⟨"authenticators_all_list", .get, route ["authenticators", "all"], .list⟩

def authenticatorsAdminAll : Endpoint :=
  ⟨"authenticators_admin_all_list", .get, route ["authenticators", "admin", "all"], .list⟩

def authenticatorsAdminList : Endpoint :=
  ⟨"authenticators_admin_list", .get, route ["authenticators", "admin", slot "kind"], .paginated⟩

def authenticatorsAdminRetrieve : Endpoint :=
  ⟨"authenticators_admin_retrieve", .get,
    route ["authenticators", "admin", slot "kind", slot "id"], .object⟩

def authenticatorsAdminCreate : Endpoint :=
  ⟨"authenticators_admin_create", .post, route ["authenticators", "admin", slot "kind"], .object⟩

def authenticatorsAdminUpdate : Endpoint :=
  ⟨"authenticators_admin_update", .put,
    route ["authenticators", "admin", slot "kind", slot "id"], .object⟩

def authenticatorsAdminPartialUpdate : Endpoint :=
  ⟨"authenticators_admin_partial_update", .patch,
    route ["authenticators", "admin", slot "kind", slot "id"], .object⟩

def authenticatorsAdminDestroy : Endpoint :=
  ⟨"authenticators_admin_destroy", .delete,
    route ["authenticators", "admin", slot "kind", slot "id"], .empty⟩

def authenticatorsList : Endpoint :=
  ⟨"authenticators_list", .get, route ["authenticators", slot "kind"], .paginated⟩

def authenticatorsRetrieve : Endpoint :=
  ⟨"authenticators_retrieve", .get, route ["authenticators", slot "kind", slot "id"], .object⟩

def authenticatorsUpdate : Endpoint :=
  ⟨"authenticators_update", .put, route ["authenticators", slot "kind", slot "id"], .object⟩

def authenticatorsPartialUpdate : Endpoint :=
  ⟨"authenticators_partial_update", .patch,
    route ["authenticators", slot "kind", slot "id"], .object⟩

def authenticatorsDestroy : Endpoint :=
  ⟨"authenticators_destroy", .delete, route ["authenticators", slot "kind", slot "id"], .empty⟩

/-! ### Users -/

def usersList : Endpoint :=
  ⟨"core_users_list", .get, route ["core", "users"], .paginated⟩

def usersRetrieve : Endpoint :=
  ⟨"core_users_retrieve", .get, route ["core", "users", slot "id"], .object⟩

def usersCreate : Endpoint :=
  ⟨"core_users_create", .post, route ["core", "users"], .object⟩

def usersUpdate : Endpoint :=
  ⟨"core_users_update", .put, route ["core", "users", slot "id"], .object⟩

def usersPartialUpdate : Endpoint :=
  ⟨"core_users_partial_update", .patch, route ["core", "users", slot "id"], .object⟩

def usersDestroy : Endpoint :=
  ⟨"core_users_destroy", .delete, route ["core", "users", slot "id"], .empty⟩

def usersMe : Endpoint :=
  ⟨"core_users_me_retrieve", .get, route ["core", "users", "me"], .object⟩

def usersSetPassword : Endpoint :=
  ⟨"core_users_set_password_create", .post,
    route ["core", "users", slot "id", "set_password"], .empty⟩

def usersUsedBy : Endpoint :=
  ⟨"core_users_used_by_list", .get, route ["core", "users", slot "id", "used_by"], .list⟩

def usersPaths : Endpoint :=
  ⟨"core_users_paths_retrieve", .get, route ["core", "users", "paths"], .object⟩

/-! ### Groups -/

def groupsList : Endpoint :=
  ⟨"core_groups_list", .get, route ["core", "groups"], .paginated⟩

def groupsRetrieve : Endpoint :=
  ⟨"core_groups_retrieve", .get, route ["core", "groups", slot "group_uuid"], .object⟩

def groupsCreate : Endpoint :=
  ⟨"core_groups_create", .post, route ["core", "groups"], .object⟩

def groupsUpdate : Endpoint :=
  ⟨"core_groups_update", .put, route ["core", "groups", slot "group_uuid"], .object⟩

def groupsPartialUpdate : Endpoint :=
  ⟨"core_groups_partial_update", .patch, route ["core", "groups", slot "group_uuid"], .object⟩

def groupsDestroy : Endpoint :=
  ⟨"core_groups_destroy", .delete, route ["core", "groups", slot "group_uuid"], .empty⟩

def groupsAddUser : Endpoint :=
  ⟨"core_groups_add_user_create", .post,
    route ["core", "groups", slot "group_uuid", "add_user"], .empty⟩

def groupsRemoveUser : Endpoint :=
  ⟨"core_groups_remove_user_create", .post,
    route ["core", "groups", slot "group_uuid", "remove_user"], .empty⟩

def groupsUsedBy : Endpoint :=
  ⟨"core_groups_used_by_list", .get, route ["core", "groups", slot "group_uuid", "used_by"], .list⟩

/-! ### Applications -/

def applicationsList : Endpoint :=
  ⟨"core_applications_list", .get, route ["core", "applications"], .paginated⟩

def applicationsRetrieve : Endpoint :=
  ⟨"core_applications_retrieve", .get, route ["core", "applications", slot "slug"], .object⟩

def applicationsCreate : Endpoint :=
  ⟨"core_applications_create", .post, route ["core", "applications"], .object⟩

def applicationsUpdate : Endpoint :=
  ⟨"core_applications_update", .put, route ["core", "applications", slot "slug"], .object⟩

def applicationsPartialUpdate : Endpoint :=
  ⟨"core_applications_partial_update", .patch, route ["core", "applications", slot "slug"], .object⟩

def applicationsDestroy : Endpoint :=
  ⟨"core_applications_destroy", .delete, route ["core", "applications", slot "slug"], .empty⟩

def applicationsCheckAccess : Endpoint :=
  ⟨"core_applications_check_access_retrieve", .get,
    route ["core", "applications", slot "slug", "check_access"], .object⟩

def applicationsUsedBy : Endpoint :=
  ⟨"core_applications_used_by_list", .get,
    route ["core", "applications", slot "slug", "used_by"], .list⟩

/-! ### Tokens -/

def tokensList : Endpoint :=
  ⟨"core_tokens_list", .get, route ["core", "tokens"], .paginated⟩

def tokensRetrieve : Endpoint :=
  ⟨"core_tokens_retrieve", .get, route ["core", "tokens", slot "identifier"], .object⟩

def tokensCreate : Endpoint :=
  ⟨"core_tokens_create", .post, route ["core", "tokens"], .object⟩

def tokensUpdate : Endpoint :=
  ⟨"core_tokens_update", .put, route ["core", "tokens", slot "identifier"], .object⟩

def tokensPartialUpdate : Endpoint :=
  ⟨"core_tokens_partial_update", .patch, route ["core", "tokens", slot "identifier"], .object⟩

def tokensDestroy : Endpoint :=
  ⟨"core_tokens_destroy", .delete, route ["core", "tokens", slot "identifier"], .empty⟩

def tokensViewKey : Endpoint :=
  ⟨"core_tokens_view_key_retrieve", .get,
    route ["core", "tokens", slot "identifier", "view_key"], .object⟩

def tokensSetKey : Endpoint :=
  ⟨"core_tokens_set_key_create", .post,
    route ["core", "tokens", slot "identifier", "set_key"], .empty⟩

def tokensUsedBy : Endpoint :=
  ⟨"core_tokens_used_by_list", .get, route ["core", "tokens", slot "identifier", "used_by"], .list⟩

/-! ### Events -/

def eventsList : Endpoint :=
  ⟨"events_events_list", .get, route ["events", "events"], .paginated⟩

def eventsRetrieve : Endpoint :=
  ⟨"events_events_retrieve", .get, route ["events", "events", slot "event_uuid"], .object⟩

def eventsTopPerUser : Endpoint :=
  ⟨"events_events_top_per_user_list", .get, route ["events", "events", "top_per_user"], .list⟩

def eventsActions : Endpoint :=
  ⟨"events_events_actions_list", .get, route ["events", "events", "actions"], .list⟩

/-! ### Flows -/

def flowsList : Endpoint :=
  ⟨"flows_instances_list", .get, route ["flows", "instances"], .paginated⟩

def flowsRetrieve : Endpoint :=
  ⟨"flows_instances_retrieve", .get, route ["flows", "instances", slot "slug"], .object⟩

def flowsDestroy : Endpoint :=
  ⟨"flows_instances_destroy", .delete, route ["flows", "instances", slot "slug"], .empty⟩

def flowsUsedBy : Endpoint :=
  ⟨"flows_instances_used_by_list", .get,
    route ["flows", "instances", slot "slug", "used_by"], .list⟩

/-- All endpoints, in the order of their resources. -/
def all : List Endpoint := [
  adminSystem,
  adminVersion,
  adminApps,
  authenticatorsAll,
  authenticatorsAdminAll,
  authenticatorsAdminList,
  authenticatorsAdminRetrieve,
  authenticatorsAdminCreate,
  authenticatorsAdminUpdate,
  authenticatorsAdminPartialUpdate,
  authenticatorsAdminDestroy,
  authenticatorsList,
  authenticatorsRetrieve,
  authenticatorsUpdate,
  authenticatorsPartialUpdate,
  authenticatorsDestroy,
  usersList,
  usersRetrieve,
  usersCreate,
  usersUpdate,
  usersPartialUpdate,
  usersDestroy,
  usersMe,
  usersSetPassword,
  usersUsedBy,
  usersPaths,
  groupsList,
  groupsRetrieve,
  groupsCreate,
  groupsUpdate,
  groupsPartialUpdate,
  groupsDestroy,
  groupsAddUser,
  groupsRemoveUser,
  groupsUsedBy,
  applicationsList,
  applicationsRetrieve,
  applicationsCreate,
  applicationsUpdate,
  applicationsPartialUpdate,
  applicationsDestroy,
  applicationsCheckAccess,
  applicationsUsedBy,
  tokensList,
  tokensRetrieve,
  tokensCreate,
  tokensUpdate,
  tokensPartialUpdate,
  tokensDestroy,
  tokensViewKey,
  tokensSetKey,
  tokensUsedBy,
  eventsList,
  eventsRetrieve,
  eventsTopPerUser,
  eventsActions,
  flowsList,
  flowsRetrieve,
  flowsDestroy,
  flowsUsedBy]

/-- The endpoint of a given name. -/
def ofName? (name : String) : Option Endpoint := all.find? (·.name == name)

end Endpoint

end IdentityApi
