import IdentityApi.Endpoint
import IdentityApi.Log.Line
import IdentityApi.Resource.Administration
import IdentityApi.Resource.Basic
import IdentityApi.Resource.Event
import IdentityApi.Resource.Flow
import IdentityApi.Transport

/-! # Operations on the system, its events and its flows

What is asked about the system itself, about the log of events, and about flows, each named by its
slug.
-/
namespace IdentityApi

/-! ## The system -/

inductive AdministrationOperation where
  | system
  | version
  | apps

namespace AdministrationOperation

/-- What an operation gives. -/
def Result : AdministrationOperation → Type
  | .system => SystemInfo
  | .version => Version
  | .apps => List App

def plan : (o : AdministrationOperation) → Plan o.Result
  | .system => ⟨.adminSystem, {}, SystemInfo.codec⟩
  | .version => ⟨.adminVersion, {}, Version.codec⟩
  | .apps => ⟨.adminApps, {}, .list App.codec⟩

end AdministrationOperation

/-! ## Events -/

inductive EventOperation where
  | list (filter : EventFilter)
  | retrieve (uuid : Uuid)
  | topPerUser (filter : TopPerUserFilter)
  | actions

namespace EventOperation

/-- What an operation gives. -/
def Result : EventOperation → Type
  | .list _ => Paginated Event
  | .retrieve _ => Event
  | .topPerUser _ => List EventTopPerUser
  | .actions => List TypeCreate

def plan : (o : EventOperation) → Plan o.Result
  | .list filter => ⟨.eventsList, { query := filter.toQuery }, Paginated.codec Event.codec⟩
  | .retrieve uuid => ⟨.eventsRetrieve, { path := [("event_uuid", uuid.text)] }, Event.codec⟩
  | .topPerUser filter =>
    ⟨.eventsTopPerUser, { query := filter.toQuery }, .list EventTopPerUser.codec⟩
  | .actions => ⟨.eventsActions, {}, .list TypeCreate.codec⟩

/-- The part of the program that spans of these operations belong to. -/
def target : String := "authentik_client::api::events"

def span (name : String) (values : List (String × String)) : Log.Span :=
  Log.Span.ofValues target name values

/-- The span of an operation in the log; some have none. -/
def span? : EventOperation → Option Log.Span
  | .retrieve uuid => some (span "retrieve_event" [("event_uuid", uuid.text)])
  | _ => none

end EventOperation

/-! ## Flows -/

inductive FlowOperation where
  | list (filter : FlowFilter)
  | retrieve (slug : String)
  | destroy (slug : String)
  | usedBy (slug : String)

namespace FlowOperation

/-- What an operation gives. -/
def Result : FlowOperation → Type
  | .list _ => Paginated Flow
  | .retrieve _ => Flow
  | .destroy _ => Unit
  | .usedBy _ => List UsedBy

def plan : (o : FlowOperation) → Plan o.Result
  | .list filter => ⟨.flowsList, { query := filter.toQuery }, Paginated.codec Flow.codec⟩
  | .retrieve slug => ⟨.flowsRetrieve, { path := [("slug", slug)] }, Flow.codec⟩
  | .destroy slug => ⟨.flowsDestroy, { path := [("slug", slug)] }, .unit⟩
  | .usedBy slug => ⟨.flowsUsedBy, { path := [("slug", slug)] }, .list UsedBy.codec⟩

/-- The part of the program that spans of these operations belong to. -/
def target : String := "authentik_client::api::flows"

def span (name : String) (values : List (String × String)) : Log.Span :=
  Log.Span.ofValues target name values

/-- The span of an operation in the log; some have none. -/
def span? : FlowOperation → Option Log.Span
  | .retrieve slug => some (span "retrieve_flow" [("slug", slug)])
  | .destroy slug => some (span "destroy_flow" [("slug", slug)])
  | _ => none

end FlowOperation

end IdentityApi
