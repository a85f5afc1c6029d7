import IdentityApi.Codec.Record
import IdentityApi.Query

/-! # Events

The audit log: events, their counts by application, the kinds of action, and the filters.
-/
namespace IdentityApi

open Codec Query

structure Event where
  pk : Uuid
  user : Json.Value
  action : String
  app : String
  context : Json.Value
  clientIp : Option String
  created : Timestamp
  expires : Option Timestamp
  brand : Json.Value

namespace Event

def columns : List Column := [
  required "pk" uuid,
  withDefault "user" value .null,
  required "action" string,
  withDefault "app" string "",
  withDefault "context" value .null,
  withDefault "client_ip" (nullable string) none,
  required "created" timestamp,
  withDefault "expires" (nullable timestamp) none,
  withDefault "brand" value .null]

def codec : Codec Event := (row "Event" columns).map
  (fun (pk, user, action, app, context, clientIp, created, expires, brand, ()) =>
    ⟨pk, user, action, app, context, clientIp, created, expires, brand⟩)
  (fun r => (r.pk, r.user, r.action, r.app, r.context, r.clientIp, r.created, r.expires, r.brand,
      ()))

end Event

/-- The name of the user who caused an event, if the event knows one. -/
def Event.username (e : Event) : Option String :=
  match e.user.get? "username" with
  | some (.string s) => some s
  | _ => none

structure EventTopPerUser where
  application : KeyMap Json.Value
  countedEvents : Int64
  uniqueUsers : Int64

namespace EventTopPerUser

def columns : List Column := [
  withDefault "application" (keyed value) ∅,
  required "counted_events" int64,
  required "unique_users" int64]

def codec : Codec EventTopPerUser := (row "EventTopPerUser" columns).map
  (fun (application, countedEvents, uniqueUsers, ()) =>
    ⟨application, countedEvents, uniqueUsers⟩)
  (fun r => (r.application, r.countedEvents, r.uniqueUsers, ()))

end EventTopPerUser

structure TypeCreate where
  name : String
  description : String
  component : String
  modelName : String
  iconUrl : Option String
  requiresEnterprise : Bool

namespace TypeCreate

def columns : List Column := [
  required "name" string,
  withDefault "description" string "",
  withDefault "component" string "",
  withDefault "model_name" string "",
  withDefault "icon_url" (nullable string) none,
  withDefault "requires_enterprise" bool false]

def codec : Codec TypeCreate := (row "TypeCreate" columns).map
  (fun (name, description, component, modelName, iconUrl, requiresEnterprise, ()) =>
    ⟨name, description, component, modelName, iconUrl, requiresEnterprise⟩)
  (fun r => (r.name, r.description, r.component, r.modelName, r.iconUrl, r.requiresEnterprise,
      ()))

end TypeCreate

structure EventFilter where
  action : Option String := none
  actions : List String := []
  username : Option String := none
  clientIp : Option String := none
  brandName : Option String := none
  contextAuthorizedApp : Option String := none
  contextModelApp : Option String := none
  contextModelName : Option String := none
  contextModelPk : Option String := none
  paging : Paging := {}
  deriving DecidableEq

def EventFilter.toQuery (f : EventFilter) : Query := ⟨
  entry "action" f.action ++
  entryAll "actions" f.actions ++
  entry "username" f.username ++
  entry "client_ip" f.clientIp ++
  entry "brand_name" f.brandName ++
  entry "context_authorized_app" f.contextAuthorizedApp ++
  entry "context_model_app" f.contextModelApp ++
  entry "context_model_name" f.contextModelName ++
  entry "context_model_pk" f.contextModelPk ++
  f.paging.entries⟩

structure TopPerUserFilter where
  action : Option String := none
  topN : Option UInt32 := none
  deriving DecidableEq

def TopPerUserFilter.toQuery (f : TopPerUserFilter) : Query := ⟨
  entry "action" f.action ++
  entry "top_n" f.topN⟩

end IdentityApi
