import IdentityApi.Log.Line
import IdentityApi.Operation.Access
import IdentityApi.Operation.Device
import IdentityApi.Operation.Directory
import IdentityApi.Operation.Monitoring

/-! # Operations

Everything that can be asked of the service by name, and calls of endpoints of any kind. The log is
told of every call: its events, and the spans around them.
-/
namespace IdentityApi

/-! ## Plans -/

inductive Operation where
  | administration (o : AdministrationOperation)
  | application (o : ApplicationOperation)
  | device (o : DeviceOperation)
  | event (o : EventOperation)
  | flow (o : FlowOperation)
  | group (o : GroupOperation)
  | token (o : TokenOperation)
  | user (o : UserOperation)
  /-- Any endpoint with any parameters; the reply is free JSON. -/
  | free (endpoint : Endpoint) (parameters : Parameters)

namespace Operation

/-- What an operation gives. -/
def Result : Operation → Type
  | administration o => o.Result
  | application o => o.Result
  | device o => o.Result
  | event o => o.Result
  | flow o => o.Result
  | group o => o.Result
  | token o => o.Result
  | user o => o.Result
  | free _ _ => Json.Value

def plan : (o : Operation) → Plan o.Result
  | administration o => o.plan
  | application o => o.plan
  | device o => o.plan
  | event o => o.plan
  | flow o => o.plan
  | group o => o.plan
  | token o => o.plan
  | user o => o.plan
  | free endpoint parameters => ⟨endpoint, parameters, .value⟩

/-- The span of an operation in the log; some have none. -/
def span? : Operation → Option Log.Span
  | administration _ | free _ _ => none
  | application o => o.span?
  | device o => o.span?
  | event o => o.span?
  | flow o => o.span?
  | group o => o.span?
  | token o => o.span?
  | user o => o.span?

end Operation

/-! ## What calls tell the log -/

open Log (Span)

/-- The part of the program that makes calls. -/
def callTarget : String := "authentik_client::client_impl"

/-- Around every call of an endpoint. -/
def Endpoint.span (e : Endpoint) : Span where
  target := callTarget
  name := "invoke"
  fields := [⟨"endpoint", e.name, true⟩, ⟨"method", e.method.name, false⟩]

/-- The spans around a call, from the outermost to the innermost. -/
def Operation.spans (o : Operation) : List Span := o.span?.toList ++ [o.plan.endpoint.span]

/-- A request is about to be sent. -/
def Request.event (r : Request) : Log.Event where
  level := .debug
  target := callTarget
  message := "Authentik API を呼び出します"
  fields := [⟨"url", r.url.text, false⟩]

/-- A reply refuses what was asked. -/
def Reply.event? (r : Reply) : Option Log.Event :=
  if r.status.isSuccess then none
  else some {
    level := .warn
    target := "authentik_client::response"
    message := "Authentik がエラーステータスを返しました"
    fields := [⟨"status", r.status.text, false⟩] }

end IdentityApi
