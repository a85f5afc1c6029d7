import IdentityApi.Client
import IdentityApi.Digest.Sha256
import IdentityApi.Reply

/-! # Transports

A transport takes a request and the state of the world behind it, and gives an outcome and the state
afterwards. `Transport.cached` puts a cache in front of another transport, `Client.call` makes one
call over a transport.
-/
namespace IdentityApi

/-! ## The cache

Replies under keys. The key of a request is its URL and, when it carries a token, the fingerprint of
the header, so that tokens do not share entries and are not kept.
-/

abbrev Cache := KeyMap Reply

/-- The key under which the reply to a request is kept. -/
def Request.cacheKey (r : Request) : String :=
  match r.authorization with
  | none => r.url.text
  | some value => r.url.text ++ "#" ++ Sha256.fingerprint value

/-! ## Outcomes and calls -/

/-- What becomes of a request that is handed to a transport. -/
inductive Outcome where
  | reply (r : Reply)
  | failed (fault : NetworkFault)
  /-- Nothing ever comes back. -/
  | silence
  deriving DecidableEq, Repr

abbrev Transport (σ : Type) := Request → σ → Outcome × σ

/-- Only whole replies with a status of success are kept. -/
def Reply.isKept (r : Reply) : Bool := r.status.isSuccess && r.body.isSome

/-- Answers `GET` from the cache where it can, and keeps what it could not answer. -/
def Transport.cached {σ : Type} (t : Transport σ) : Transport (σ × Cache) :=
  fun request (s, cache) =>
    if request.method ≠ "GET" then
      let (outcome, s) := t request s
      (outcome, s, cache)
    else
      match cache.get? request.cacheKey with
      | some r => (.reply r, s, cache)
      | none =>
        match t request s with
        | (.reply r, s) =>
          (.reply r, s, if r.isKept then cache.put request.cacheKey r else cache)
        | (outcome, s) => (outcome, s, cache)

/-- What is asked of an endpoint, and how its reply is read. -/
structure Plan (α : Type) where
  endpoint : Endpoint
  parameters : Parameters := {}
  codec : Codec α

namespace Plan

variable {α : Type}

def request (p : Plan α) (c : Client) : Except Request.Fault Request :=
  p.parameters.request c.base c.authorization p.endpoint

/-- What a reply to the request means. -/
def result (p : Plan α) (r : Reply) : Except CallFault α := r.result p.endpoint.shape p.codec

end Plan

/-- One call. A request that cannot be built is the first fault, a switch that is already thrown the
second; then the request is sent once. A call that is left without an answer ends when its switch is
thrown, and otherwise never: then there is no result. -/
def Client.call {σ α : Type} (c : Client) (t : Transport σ) (isThrown : σ → String → Bool)
    (p : Plan α) (s : σ) : Option (Except CallFault α) × σ :=
  let isCancelled (s : σ) : Bool := c.cancellation.any (isThrown s)
  match p.request c with
  | .error fault => (some (.error (.invalidRequest fault)), s)
  | .ok request =>
    if isCancelled s then (some (.error .cancelled), s)
    else
      match t request s with
      | (.reply r, s) => (some (p.result r), s)
      | (.failed fault, s) => (some (.error (.network fault)), s)
      | (.silence, s) => (if isCancelled s then some (.error .cancelled) else none, s)

end IdentityApi
