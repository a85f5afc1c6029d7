import IdentityApi.Operation
import IdentityApi.Transport

/-! # Sessions

Named clients that share one scripted transport and one cache. A session goes on step by step; a
step gives a result and the session afterwards. The script answers from a list of prepared answers
and keeps the requests that reach it. Switches are thrown by name, by hand or by an answer when its
turn comes.
-/
namespace IdentityApi

/-! ## Scripts -/

structure PreparedAnswer where
  /-- The switch that is thrown before anything comes back. -/
  throws : Option String := none
  outcome : Outcome

structure Script where
  pending : List PreparedAnswer := []
  /-- What has arrived, oldest first. -/
  seen : List Request := []
  thrown : List String := []

namespace Script

def throw (s : Script) (switch : String) : Script := { s with thrown := switch :: s.thrown }

/-- Puts a new switch in the place of an old one. -/
def renew (s : Script) (switch : String) : Script :=
  { s with thrown := s.thrown.filter (· != switch) }

def isThrown (s : Script) (switch : String) : Bool := s.thrown.contains switch

def enqueue (s : Script) (a : PreparedAnswer) : Script := { s with pending := s.pending ++ [a] }

/-- What comes back once the script has run out: success, and an empty body. -/
def exhausted : Outcome := .reply { status := ⟨200⟩, body := some [] }

/-- Takes the next answer. -/
def transport : Transport Script := fun request s =>
  let s := { s with seen := s.seen ++ [request] }
  match s.pending with
  | [] => (exhausted, s)
  | a :: rest =>
    let s := { s with pending := rest }
    (a.outcome, match a.throws with
      | some switch => s.throw switch
      | none => s)

end Script

/-! ## Clients and steps -/

structure Session where
  /-- Whether the cache stands in front of the transport. -/
  caching : Bool := false
  clients : KeyMap Client := ∅
  script : Script := {}
  cache : Cache := ∅

namespace Session

inductive Step where
  /-- A client of a name, with a switch of its own under that name if it is to be cancellable. -/
  | create (name base : String) (token : Option String) (cancellable : Bool)
  | enqueue (a : PreparedAnswer)
  | cancel (name : String)
  | call (name : String) (o : Operation)
  /-- Hands a request to the transport, without a client. -/
  | send (request : Request)
  | lookUp (key : String)
  | keep (key : String) (r : Reply)
  | forget (key : String)
  | forgetRequest (request : Request)
  | forgetAll

/-- What a step gives. A call of no client, and one that never ends, give nothing. -/
def Step.Result : Step → Type
  | create _ _ _ _ => Except Config.Fault Client
  | call _ o => Option (Except CallFault o.Result)
  | send _ => Outcome
  | lookUp _ => Option Reply
  | enqueue _ | cancel _ | keep _ _ | forget _ | forgetRequest _ | forgetAll => Unit

/-- What the clients send over: the script, behind the cache if there is caching. -/
def transport (caching : Bool) : Transport (Script × Cache) :=
  if caching then Script.transport.cached
  else fun request (script, cache) =>
    let (outcome, script) := Script.transport request script
    (outcome, script, cache)

/-- What is behind the clients. -/
def backstage (s : Session) : Script × Cache := (s.script, s.cache)

def withBackstage (s : Session) (b : Script × Cache) : Session :=
  { s with script := b.1, cache := b.2 }

/-- Stores a client. A cancellable one gets a new switch. -/
def store (s : Session) (name : String) (c : Client) (cancellable : Bool) : Session :=
  { s with
    clients := s.clients.put name c
    script := if cancellable then s.script.renew name else s.script }

def createClient (name base : String) (token : Option String) (cancellable : Bool) :
    Except Config.Fault Client :=
  (Client.create base token).map fun c => if cancellable then c.withCancellation name else c

/-- Calls for a client. -/
def callFor {α : Type} (s : Session) (c : Client) (p : Plan α) :
    Option (Except CallFault α) × Session :=
  let (result, b) :=
    c.call (transport s.caching) (fun b switch => b.1.isThrown switch) p s.backstage
  (result, s.withBackstage b)

def step (s : Session) : (t : Step) → t.Result × Session
  | .create name base token cancellable =>
    match createClient name base token cancellable with
    | .ok c => (.ok c, s.store name c cancellable)
    | .error fault => (.error fault, s)
  | .enqueue a => ((), { s with script := s.script.enqueue a })
  | .cancel name => ((), { s with script := s.script.throw name })
  | .call name o =>
    match s.clients.get? name with
    | some c => s.callFor c o.plan
    | none => (none, s)
  | .send request =>
    let (outcome, b) := transport s.caching request s.backstage
    (outcome, s.withBackstage b)
  | .lookUp key => (s.cache.get? key, s)
  | .keep key r => ((), { s with cache := s.cache.put key r })
  | .forget key => ((), { s with cache := s.cache.remove key })
  | .forgetRequest request => ((), { s with cache := s.cache.remove request.cacheKey })
  | .forgetAll => ((), { s with cache := ∅ })

end Session

end IdentityApi
