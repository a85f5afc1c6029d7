import IdentityApi.Endpoint
import IdentityApi.Log.Line
import IdentityApi.Resource.Basic
import IdentityApi.Resource.Device
import IdentityApi.Transport

/-! # Operations on devices

What is asked about devices for authentication: the own ones, and with the rights of an
administrator those of all users. A device is named by its kind and its key.
-/
namespace IdentityApi

inductive DeviceOperation where
  | all
  | adminAll (user : Option Int64)
  | adminList (kind : DeviceKind) (filter : DeviceFilter)
  | adminRetrieve (kind : DeviceKind) (id : Int64)
  | adminCreate (kind : DeviceKind) (request : DeviceRequest)
  | adminUpdate (kind : DeviceKind) (id : Int64) (request : DeviceRequest)
  | adminPartialUpdate (kind : DeviceKind) (id : Int64) (request : PatchedDeviceRequest)
  | adminDestroy (kind : DeviceKind) (id : Int64)
  | list (kind : DeviceKind) (filter : DeviceFilter)
  | retrieve (kind : DeviceKind) (id : Int64)
  | update (kind : DeviceKind) (id : Int64) (request : DeviceRequest)
  | partialUpdate (kind : DeviceKind) (id : Int64) (request : PatchedDeviceRequest)
  | destroy (kind : DeviceKind) (id : Int64)

namespace DeviceOperation

/-- What an operation gives. -/
def Result : DeviceOperation → Type
  | .all | .adminAll _ => List Device
  | .adminList _ _ | .list _ _ => Paginated DeviceRecord
  | .adminRetrieve _ _ | .adminCreate _ _ | .adminUpdate _ _ _ | .adminPartialUpdate _ _ _
  | .retrieve _ _ | .update _ _ _ | .partialUpdate _ _ _ => DeviceRecord
  | .adminDestroy _ _ | .destroy _ _ => Unit

/-- The place of a kind of devices. -/
def ofKind (kind : DeviceKind) : List (String × String) := [("kind", Choice.name kind)]

/-- The place of one device. -/
def ofDevice (kind : DeviceKind) (id : Int64) : List (String × String) :=
  [("kind", Choice.name kind), ("id", QueryValue.text id)]

def optionText : Option Int64 → String
  | none => "None"
  | some n => "Some(" ++ QueryValue.text n ++ ")"

def plan : (o : DeviceOperation) → Plan o.Result
  | .all => ⟨.authenticatorsAll, {}, .list Device.codec⟩
  | .adminAll user =>
    ⟨.authenticatorsAdminAll, { query := Query.empty.push "user" user }, .list Device.codec⟩
  | .adminList kind filter =>
    ⟨.authenticatorsAdminList,
      { path := ofKind kind, query := filter.toQuery },
      Paginated.codec DeviceRecord.codec⟩
  | .adminRetrieve kind id =>
    ⟨.authenticatorsAdminRetrieve, { path := ofDevice kind id }, DeviceRecord.codec⟩
  | .adminCreate kind request =>
    ⟨.authenticatorsAdminCreate,
      { path := ofKind kind, body := some request.toJson },
      DeviceRecord.codec⟩
  | .adminUpdate kind id request =>
    ⟨.authenticatorsAdminUpdate,
      { path := ofDevice kind id, body := some request.toJson },
      DeviceRecord.codec⟩
  | .adminPartialUpdate kind id request =>
    ⟨.authenticatorsAdminPartialUpdate,
      { path := ofDevice kind id, body := some request.toJson },
      DeviceRecord.codec⟩
  | .adminDestroy kind id => ⟨.authenticatorsAdminDestroy, { path := ofDevice kind id }, .unit⟩
  | .list kind filter =>
    ⟨.authenticatorsList,
      { path := ofKind kind, query := filter.toQuery },
      Paginated.codec DeviceRecord.codec⟩
  | .retrieve kind id => ⟨.authenticatorsRetrieve, { path := ofDevice kind id }, DeviceRecord.codec⟩
  | .update kind id request =>
    ⟨.authenticatorsUpdate,
      { path := ofDevice kind id, body := some request.toJson },
      DeviceRecord.codec⟩
  | .partialUpdate kind id request =>
    ⟨.authenticatorsPartialUpdate,
      { path := ofDevice kind id, body := some request.toJson },
      DeviceRecord.codec⟩
  | .destroy kind id => ⟨.authenticatorsDestroy, { path := ofDevice kind id }, .unit⟩

/-- The part of the program that spans of these operations belong to. -/
def target : String := "authentik_client::api::authenticators"

def span (name : String) (values : List (String × String)) : Log.Span :=
  Log.Span.ofValues target name values

/-- The span of an operation in the log; some have none. -/
def span? : DeviceOperation → Option Log.Span
  | .adminAll user => some (span "admin_all" [("user", optionText user)])
  | .adminList kind _ => some (span "admin_list" (ofKind kind))
  | .adminRetrieve kind id => some (span "admin_retrieve" (ofDevice kind id))
  | .adminCreate kind _ => some (span "admin_create" (ofKind kind))
  | .adminUpdate kind id _ => some (span "admin_update" (ofDevice kind id))
  | .adminPartialUpdate kind id _ => some (span "admin_partial_update" (ofDevice kind id))
  | .adminDestroy kind id => some (span "admin_destroy" (ofDevice kind id))
  | .list kind _ => some (span "list_devices" (ofKind kind))
  | .retrieve kind id => some (span "retrieve_device" (ofDevice kind id))
  | .update kind id _ => some (span "update_device" (ofDevice kind id))
  | .partialUpdate kind id _ => some (span "partial_update_device" (ofDevice kind id))
  | .destroy kind id => some (span "destroy_device" (ofDevice kind id))
  | _ => none

end DeviceOperation

end IdentityApi
