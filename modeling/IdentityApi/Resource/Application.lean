import IdentityApi.Codec.Basic
import IdentityApi.Codec.Record
import IdentityApi.Query
import IdentityApi.Resource.Basic

/-! # Applications

Applications, what is sent to make or change one, the filter of their list, and the outcome of a
policy test.
-/
namespace IdentityApi

open Codec Query

structure Application where
  pk : Uuid
  name : String
  slug : String
  provider : Option Int64
  backchannelProviders : List Int64
  launchUrl : Option String
  openInNewTab : Bool
  metaLaunchUrl : String
  metaIcon : Option String
  metaDescription : String
  metaPublisher : String
  policyEngineMode : PolicyEngineMode
  group : String

namespace Application

def columns : List Column := [
  required "pk" uuid,
  required "name" string,
  required "slug" string,
  withDefault "provider" (nullable int64) none,
  withDefault "backchannel_providers" (list int64) [],
  withDefault "launch_url" (nullable string) none,
  withDefault "open_in_new_tab" bool false,
  withDefault "meta_launch_url" string "",
  withDefault "meta_icon" (nullable string) none,
  withDefault "meta_description" string "",
  withDefault "meta_publisher" string "",
  withDefault "policy_engine_mode" (choice PolicyEngineMode) .all,
  withDefault "group" string ""]

def codec : Codec Application := (row "Application" columns).map
  (fun (pk, name, slug, provider, backchannelProviders, launchUrl, openInNewTab, metaLaunchUrl,
      metaIcon, metaDescription, metaPublisher, policyEngineMode, group, ()) =>
    ⟨pk, name, slug, provider, backchannelProviders, launchUrl, openInNewTab, metaLaunchUrl,
    metaIcon, metaDescription, metaPublisher, policyEngineMode, group⟩)
  (fun r => (r.pk, r.name, r.slug, r.provider, r.backchannelProviders, r.launchUrl,
      r.openInNewTab, r.metaLaunchUrl, r.metaIcon, r.metaDescription, r.metaPublisher,
      r.policyEngineMode, r.group, ()))

end Application

structure ApplicationRequest where
  name : String
  slug : String
  provider : Option Int64 := none
  backchannelProviders : Option (List Int64) := none
  openInNewTab : Option Bool := none
  metaLaunchUrl : Option String := none
  metaDescription : Option String := none
  metaPublisher : Option String := none
  policyEngineMode : Option PolicyEngineMode := none
  group : Option String := none

def ApplicationRequest.toJson (r : ApplicationRequest) : Json.Value := .object (
  field "name" string r.name ++
  field "slug" string r.slug ++
  given "provider" int64 r.provider ++
  given "backchannel_providers" (list int64) r.backchannelProviders ++
  given "open_in_new_tab" bool r.openInNewTab ++
  given "meta_launch_url" string r.metaLaunchUrl ++
  given "meta_description" string r.metaDescription ++
  given "meta_publisher" string r.metaPublisher ++
  given "policy_engine_mode" (choice PolicyEngineMode) r.policyEngineMode ++
  given "group" string r.group)

structure PatchedApplicationRequest where
  name : Option String := none
  slug : Option String := none
  provider : Option (Option Int64) := none
  backchannelProviders : Option (List Int64) := none
  openInNewTab : Option Bool := none
  metaLaunchUrl : Option String := none
  metaDescription : Option String := none
  metaPublisher : Option String := none
  policyEngineMode : Option PolicyEngineMode := none
  group : Option String := none

def PatchedApplicationRequest.toJson (r : PatchedApplicationRequest) : Json.Value := .object (
  given "name" string r.name ++
  given "slug" string r.slug ++
  given "provider" (nullable int64) r.provider ++
  given "backchannel_providers" (list int64) r.backchannelProviders ++
  given "open_in_new_tab" bool r.openInNewTab ++
  given "meta_launch_url" string r.metaLaunchUrl ++
  given "meta_description" string r.metaDescription ++
  given "meta_publisher" string r.metaPublisher ++
  given "policy_engine_mode" (choice PolicyEngineMode) r.policyEngineMode ++
  given "group" string r.group)

structure PolicyTestResult where
  passing : Bool
  messages : List String
  logMessages : List Json.Value

namespace PolicyTestResult

def columns : List Column := [
  required "passing" bool,
  withDefault "messages" (list string) [],
  withDefault "log_messages" (list value) []]

def codec : Codec PolicyTestResult := (row "PolicyTestResult" columns).map
  (fun (passing, messages, logMessages, ()) =>
    ⟨passing, messages, logMessages⟩)
  (fun r => (r.passing, r.messages, r.logMessages, ()))

end PolicyTestResult

structure ApplicationFilter where
  name : Option String := none
  slug : Option String := none
  group : Option String := none
  metaPublisher : Option String := none
  metaLaunchUrl : Option String := none
  superuserFullList : Option Bool := none
  forUser : Option Int64 := none
  onlyWithLaunchUrl : Option Bool := none
  paging : Paging := {}
  deriving DecidableEq

def ApplicationFilter.toQuery (f : ApplicationFilter) : Query := ⟨
  entry "name" f.name ++
  entry "slug" f.slug ++
  entry "group" f.group ++
  entry "meta_publisher" f.metaPublisher ++
  entry "meta_launch_url" f.metaLaunchUrl ++
  entry "superuser_full_list" f.superuserFullList ++
  entry "for_user" f.forUser ++
  entry "only_with_launch_url" f.onlyWithLaunchUrl ++
  f.paging.entries⟩

end IdentityApi
