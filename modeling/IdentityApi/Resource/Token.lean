import IdentityApi.Codec.Basic
import IdentityApi.Codec.Record
import IdentityApi.Query

/-! # Tokens

Tokens, their keys, what is sent to make or change one, and the filter of their list. Keys never
show in diagnostics.
-/
namespace IdentityApi

open Codec Query

inductive TokenIntent where
  | verification | api | recovery | appPassword
  deriving DecidableEq, Repr

instance : Choice TokenIntent where
  all := [.verification, .api, .recovery, .appPassword]
  name
    | .verification => "verification"
    | .api => "api"
    | .recovery => "recovery"
    | .appPassword => "app_password"

structure Token where
  pk : Uuid
  managed : Option String
  identifier : String
  intent : TokenIntent
  user : Int64
  description : String
  expires : Option Timestamp
  expiring : Bool

namespace Token

def columns : List Column := [
  required "pk" uuid,
  withDefault "managed" (nullable string) none,
  required "identifier" string,
  withDefault "intent" (choice TokenIntent) .api,
  required "user" int64,
  withDefault "description" string "",
  withDefault "expires" (nullable timestamp) none,
  withDefault "expiring" bool false]

def codec : Codec Token := (row "Token" columns).map
  (fun (pk, managed, identifier, intent, user, description, expires, expiring, ()) =>
    ⟨pk, managed, identifier, intent, user, description, expires, expiring⟩)
  (fun r => (r.pk, r.managed, r.identifier, r.intent, r.user, r.description, r.expires,
      r.expiring, ()))

end Token

structure TokenRequest where
  identifier : String
  intent : Option TokenIntent := none
  user : Option Int64 := none
  description : Option String := none
  expires : Option Timestamp := none
  expiring : Option Bool := none

def TokenRequest.toJson (r : TokenRequest) : Json.Value := .object (
  field "identifier" string r.identifier ++
  given "intent" (choice TokenIntent) r.intent ++
  given "user" int64 r.user ++
  given "description" string r.description ++
  given "expires" timestamp r.expires ++
  given "expiring" bool r.expiring)

structure PatchedTokenRequest where
  identifier : Option String := none
  intent : Option TokenIntent := none
  user : Option Int64 := none
  description : Option String := none
  expires : Option Timestamp := none
  expiring : Option Bool := none

def PatchedTokenRequest.toJson (r : PatchedTokenRequest) : Json.Value := .object (
  given "identifier" string r.identifier ++
  given "intent" (choice TokenIntent) r.intent ++
  given "user" int64 r.user ++
  given "description" string r.description ++
  given "expires" timestamp r.expires ++
  given "expiring" bool r.expiring)

structure TokenView where
  key : String

namespace TokenView

def columns : List Column := [
  required "key" string]

def codec : Codec TokenView := (row "TokenView" columns).map
  (fun (key, ()) => ⟨key⟩)
  (fun r => (r.key, ()))

end TokenView

/-- The key stays hidden. -/
def TokenView.debugText (_ : TokenView) : String := "TokenView \x7b key: \"***\" \x7d"

structure TokenSetKeyRequest where
  key : String

def TokenSetKeyRequest.toJson (r : TokenSetKeyRequest) : Json.Value := .object (
  field "key" string r.key)

def TokenSetKeyRequest.debugText (_ : TokenSetKeyRequest) : String :=
  "TokenSetKeyRequest \x7b key: \"***\" \x7d"

structure TokenFilter where
  identifier : Option String := none
  intent : Option TokenIntent := none
  description : Option String := none
  managed : Option String := none
  userUsername : Option String := none
  paging : Paging := {}
  deriving DecidableEq

def TokenFilter.toQuery (f : TokenFilter) : Query := ⟨
  entry "identifier" f.identifier ++
  entry "intent" f.intent ++
  entry "description" f.description ++
  entry "managed" f.managed ++
  entry "user__username" f.userUsername ++
  f.paging.entries⟩

end IdentityApi
