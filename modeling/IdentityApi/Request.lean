import IdentityApi.Endpoint
import IdentityApi.Json.Tree
import IdentityApi.Json.Value
import IdentityApi.PathTemplate
import IdentityApi.Query
import IdentityApi.Text.Utf8
import IdentityApi.Url.Basic
import IdentityApi.Url.Reader

/-! # Requests

A request as it is handed to a transport, and the parameters of a call: values for the placeholders
of a path, a query and a body. They give target, URL and request for an endpoint, or a fault.
-/
namespace IdentityApi

/-! ## Methods, headers and bodies -/

structure Header where
  /-- In lower case. -/
  name : String
  value : String
  /-- Kept out of diagnostics. -/
  sensitive : Bool := false
  deriving DecidableEq, Repr

structure Request where
  method : String
  url : Url
  headers : List Header := []
  body : Option Octets := none
  deriving DecidableEq, Repr

namespace Request

/-- The value of the `authorization` header. -/
def authorization (r : Request) : Option String :=
  (r.headers.find? (·.name == "authorization")).map Header.value

end Request

/-! ## Faults -/

namespace Request

inductive Fault where
  | path (template : String) (fault : PathTemplate.Fault)
  | url (fault : Url.Fault)
  /-- The method carries no body. -/
  | strayBody (method : Method) (endpoint : String)
  /-- The body has no JSON form. -/
  | unwritable (fault : Json.Fault)
  deriving DecidableEq, Repr

def Fault.message : Fault → String
  | path template fault => fault.message template
  | url fault => "URL を組み立てられません: " ++ fault.message
  | strayBody method endpoint => method.name ++ " はボディを持てません: " ++ endpoint
  | unwritable fault => "リクエストボディをシリアライズできません: " ++ fault.message

end Request

/-! ## Parameters of a call -/

structure Parameters where
  path : List (String × String) := []
  query : Query := {}
  body : Option Json.Value := none

namespace Parameters

/-- The same parameters with a body, if that has a JSON form. -/
def withBody (p : Parameters) (body : Except Json.Fault Json.Value) :
    Except Request.Fault Parameters :=
  match body with
  | .ok v => .ok { p with body := some v }
  | .error fault => .error (.unwritable fault)

/-- The path of an endpoint. -/
def target (p : Parameters) (e : Endpoint) : Except Request.Fault String :=
  (PathTemplate.render e.path p.path).mapError (.path e.path)

/-- Path and query, relative to the base URL. -/
def relativeTarget (p : Parameters) (e : Endpoint) : Except Request.Fault String :=
  (p.target e).map fun path => if p.query.isEmpty then path else path ++ "?" ++ p.query.text

/-- The absolute URL. A query of the path gives way to that of the parameters. -/
def url (p : Parameters) (base : Url) (e : Endpoint) : Except Request.Fault Url := do
  let path ← p.target e
  let u ← (base.join path).mapError .url
  return if p.query.isEmpty then u else u.withQuery p.query.text

def json : String := "application/json"

/-- The headers of a request with or without a body. -/
def headers (authorization : Option String) (withContent : Bool) : List Header :=
  ⟨"accept", json, false⟩ ::
    ((authorization.map fun value => Header.mk "authorization" value true).toList ++
      if withContent then [⟨"content-type", json, false⟩] else [])

/-- The request to send. A body that the method does not carry is the first fault to be found. -/
def request (p : Parameters) (base : Url) (authorization : Option String) (e : Endpoint) :
    Except Request.Fault Request := do
  if p.body.isSome && !e.method.allowsBody then throw (.strayBody e.method e.name)
  let u ← p.url base e
  return {
    method := e.method.name
    url := u
    headers := headers authorization p.body.isSome
    body := p.body.map fun v => octetsOf v.compact }

end Parameters

end IdentityApi
