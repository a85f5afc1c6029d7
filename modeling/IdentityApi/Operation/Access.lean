import IdentityApi.Endpoint
import IdentityApi.Log.Line
import IdentityApi.Resource.Application
import IdentityApi.Resource.Basic
import IdentityApi.Resource.Token
import IdentityApi.Transport

/-! # Operations on applications and tokens

What is asked about applications, each named by its slug, and about tokens, each named by its
identifier.
-/
namespace IdentityApi

/-! ## Applications -/

inductive ApplicationOperation where
  | list (filter : ApplicationFilter)
  | retrieve (slug : String)
  | create (request : ApplicationRequest)
  | update (slug : String) (request : ApplicationRequest)
  | partialUpdate (slug : String) (request : PatchedApplicationRequest)
  | destroy (slug : String)
  /-- Asks whether a user may use an application. -/
  | checkAccess (slug : String) (user : Int64)
  | usedBy (slug : String)

namespace ApplicationOperation

/-- What an operation gives. -/
def Result : ApplicationOperation → Type
  | .list _ => Paginated Application
  | .retrieve _ | .create _ | .update _ _ | .partialUpdate _ _ => Application
  | .destroy _ => Unit
  | .checkAccess _ _ => PolicyTestResult
  | .usedBy _ => List UsedBy

def plan : (o : ApplicationOperation) → Plan o.Result
  | .list filter =>
    ⟨.applicationsList, { query := filter.toQuery }, Paginated.codec Application.codec⟩
  | .retrieve slug => ⟨.applicationsRetrieve, { path := [("slug", slug)] }, Application.codec⟩
  | .create request => ⟨.applicationsCreate, { body := some request.toJson }, Application.codec⟩
  | .update slug request =>
    ⟨.applicationsUpdate,
      { path := [("slug", slug)], body := some request.toJson },
      Application.codec⟩
  | .partialUpdate slug request =>
    ⟨.applicationsPartialUpdate,
      { path := [("slug", slug)], body := some request.toJson },
      Application.codec⟩
  | .destroy slug => ⟨.applicationsDestroy, { path := [("slug", slug)] }, .unit⟩
  | .checkAccess slug user =>
    ⟨.applicationsCheckAccess,
      { path := [("slug", slug)], query := Query.empty.push "for_user" (some user) },
      PolicyTestResult.codec⟩
  | .usedBy slug => ⟨.applicationsUsedBy, { path := [("slug", slug)] }, .list UsedBy.codec⟩

/-- The part of the program that spans of these operations belong to. -/
def target : String := "authentik_client::api::applications"

def span (name : String) (values : List (String × String)) : Log.Span :=
  Log.Span.ofValues target name values

/-- The span of an operation in the log; some have none. -/
def span? : ApplicationOperation → Option Log.Span
  | .retrieve slug => some (span "retrieve_application" [("slug", slug)])
  | .update slug _ => some (span "update_application" [("slug", slug)])
  | .partialUpdate slug _ => some (span "partial_update_application" [("slug", slug)])
  | .destroy slug => some (span "destroy_application" [("slug", slug)])
  | .checkAccess slug user =>
    some (span "check_application_access" [("slug", slug), ("for_user", QueryValue.text user)])
  | _ => none

end ApplicationOperation

/-! ## Tokens -/

inductive TokenOperation where
  | list (filter : TokenFilter)
  | retrieve (identifier : String)
  | create (request : TokenRequest)
  | update (identifier : String) (request : TokenRequest)
  | partialUpdate (identifier : String) (request : PatchedTokenRequest)
  | destroy (identifier : String)
  | viewKey (identifier : String)
  | setKey (identifier : String) (request : TokenSetKeyRequest)
  | usedBy (identifier : String)

namespace TokenOperation

/-- What an operation gives. -/
def Result : TokenOperation → Type
  | .list _ => Paginated Token
  | .retrieve _ | .create _ | .update _ _ | .partialUpdate _ _ => Token
  | .destroy _ | .setKey _ _ => Unit
  | .viewKey _ => TokenView
  | .usedBy _ => List UsedBy

def plan : (o : TokenOperation) → Plan o.Result
  | .list filter => ⟨.tokensList, { query := filter.toQuery }, Paginated.codec Token.codec⟩
  | .retrieve identifier => ⟨.tokensRetrieve, { path := [("identifier", identifier)] }, Token.codec⟩
  | .create request => ⟨.tokensCreate, { body := some request.toJson }, Token.codec⟩
  | .update identifier request =>
    ⟨.tokensUpdate,
      { path := [("identifier", identifier)], body := some request.toJson },
      Token.codec⟩
  | .partialUpdate identifier request =>
    ⟨.tokensPartialUpdate,
      { path := [("identifier", identifier)], body := some request.toJson },
      Token.codec⟩
  | .destroy identifier => ⟨.tokensDestroy, { path := [("identifier", identifier)] }, .unit⟩
  | .viewKey identifier =>
    ⟨.tokensViewKey, { path := [("identifier", identifier)] }, TokenView.codec⟩
  | .setKey identifier request =>
    ⟨.tokensSetKey, { path := [("identifier", identifier)], body := some request.toJson }, .unit⟩
  | .usedBy identifier =>
    ⟨.tokensUsedBy, { path := [("identifier", identifier)] }, .list UsedBy.codec⟩

/-- The part of the program that spans of these operations belong to. -/
def target : String := "authentik_client::api::tokens"

def span (name : String) (values : List (String × String)) : Log.Span :=
  Log.Span.ofValues target name values

/-- The span of an operation in the log; some have none. -/
def span? : TokenOperation → Option Log.Span
  | .retrieve identifier => some (span "retrieve_token" [("identifier", identifier)])
  | .update identifier _ => some (span "update_token" [("identifier", identifier)])
  | .partialUpdate identifier _ => some (span "partial_update_token" [("identifier", identifier)])
  | .destroy identifier => some (span "destroy_token" [("identifier", identifier)])
  | .viewKey identifier => some (span "view_token_key" [("identifier", identifier)])
  | .setKey identifier _ => some (span "set_token_key" [("identifier", identifier)])
  | _ => none

end TokenOperation

end IdentityApi
