import IdentityApi.Codec.Record
import IdentityApi.Query
import IdentityApi.Resource.Basic

/-! # Flows

Flows, what they are for, and the filter of their list.
-/
namespace IdentityApi

open Codec Query

inductive FlowDesignation where
  | authentication | authorization | invalidation | enrollment | unenrollment | recovery
  | stageConfiguration
  deriving DecidableEq, Repr

instance : Choice FlowDesignation where
  all := [
    .authentication, .authorization, .invalidation, .enrollment, .unenrollment, .recovery,
    .stageConfiguration]
  name
    | .authentication => "authentication"
    | .authorization => "authorization"
    | .invalidation => "invalidation"
    | .enrollment => "enrollment"
    | .unenrollment => "unenrollment"
    | .recovery => "recovery"
    | .stageConfiguration => "stage_configuration"

structure Flow where
  pk : Uuid
  name : String
  slug : String
  title : String
  designation : FlowDesignation
  background : String
  stages : List Uuid
  policies : List Uuid
  cacheCount : Int64
  policyEngineMode : PolicyEngineMode
  compatibilityMode : Bool
  exportUrl : String
  layout : String
  deniedAction : String

namespace Flow

def columns : List Column := [
  required "pk" uuid,
  required "name" string,
  required "slug" string,
  withDefault "title" string "",
  required "designation" (choice FlowDesignation),
  withDefault "background" string "",
  withDefault "stages" (list uuid) [],
  withDefault "policies" (list uuid) [],
  withDefault "cache_count" int64 0,
  withDefault "policy_engine_mode" (choice PolicyEngineMode) .all,
  withDefault "compatibility_mode" bool false,
  withDefault "export_url" string "",
  withDefault "layout" string "",
  withDefault "denied_action" string ""]

def codec : Codec Flow := (row "Flow" columns).map
  (fun (pk, name, slug, title, designation, background, stages, policies, cacheCount,
      policyEngineMode, compatibilityMode, exportUrl, layout, deniedAction, ()) =>
    ⟨pk, name, slug, title, designation, background, stages, policies, cacheCount,
    policyEngineMode, compatibilityMode, exportUrl, layout, deniedAction⟩)
  (fun r => (r.pk, r.name, r.slug, r.title, r.designation, r.background, r.stages, r.policies,
      r.cacheCount, r.policyEngineMode, r.compatibilityMode, r.exportUrl, r.layout, r.deniedAction,
      ()))

end Flow

structure FlowFilter where
  designation : Option FlowDesignation := none
  name : Option String := none
  slug : Option String := none
  paging : Paging := {}
  deriving DecidableEq

def FlowFilter.toQuery (f : FlowFilter) : Query := ⟨
  entry "designation" f.designation ++
  entry "name" f.name ++
  entry "slug" f.slug ++
  f.paging.entries⟩

end IdentityApi
