import IdentityApi.Codec.Record

/-! # Administration

The system that runs the service, its version and its parts.
-/
namespace IdentityApi

open Codec

structure SystemRuntime where
  pythonVersion : String := ""
  environment : String := ""
  architecture : String := ""
  platform : String := ""
  uname : String := ""
  opensslVersion : String := ""
  opensslFipsEnabled : Option Bool := none
  authentikVersion : String := ""

namespace SystemRuntime

def columns : List Column := [
  withDefault "python_version" string "",
  withDefault "environment" string "",
  withDefault "architecture" string "",
  withDefault "platform" string "",
  withDefault "uname" string "",
  withDefault "openssl_version" string "",
  withDefault "openssl_fips_enabled" (nullable bool) none,
  withDefault "authentik_version" string ""]

def codec : Codec SystemRuntime := (row "SystemRuntime" columns).map
  (fun (pythonVersion, environment, architecture, platform, uname, opensslVersion,
      opensslFipsEnabled, authentikVersion, ()) =>
    ⟨pythonVersion, environment, architecture, platform, uname, opensslVersion,
    opensslFipsEnabled, authentikVersion⟩)
  (fun r => (r.pythonVersion, r.environment, r.architecture, r.platform, r.uname,
      r.opensslVersion, r.opensslFipsEnabled, r.authentikVersion, ()))

end SystemRuntime

structure SystemInfo where
  httpHeaders : KeyMap String
  httpHost : String
  httpIsSecure : Bool
  runtime : SystemRuntime
  brand : String
  serverTime : Timestamp
  embeddedOutpostDisabled : Bool
  embeddedOutpostHost : String

namespace SystemInfo

def columns : List Column := [
  withDefault "http_headers" (keyed string) ∅,
  withDefault "http_host" string "",
  withDefault "http_is_secure" bool false,
  withDefault "runtime" SystemRuntime.codec {},
  withDefault "brand" string "",
  required "server_time" timestamp,
  withDefault "embedded_outpost_disabled" bool false,
  withDefault "embedded_outpost_host" string ""]

def codec : Codec SystemInfo := (row "SystemInfo" columns).map
  (fun (httpHeaders, httpHost, httpIsSecure, runtime, brand, serverTime, embeddedOutpostDisabled,
      embeddedOutpostHost, ()) =>
    ⟨httpHeaders, httpHost, httpIsSecure, runtime, brand, serverTime, embeddedOutpostDisabled,
    embeddedOutpostHost⟩)
  (fun r => (r.httpHeaders, r.httpHost, r.httpIsSecure, r.runtime, r.brand, r.serverTime,
      r.embeddedOutpostDisabled, r.embeddedOutpostHost, ()))

end SystemInfo

structure Version where
  versionCurrent : String
  versionLatest : String
  versionLatestValid : Bool
  buildHash : String
  outdated : Bool
  outpostOutdated : Bool

namespace Version

def columns : List Column := [
  required "version_current" string,
  withDefault "version_latest" string "",
  withDefault "version_latest_valid" bool false,
  withDefault "build_hash" string "",
  withDefault "outdated" bool false,
  withDefault "outpost_outdated" bool false]

def codec : Codec Version := (row "Version" columns).map
  (fun (versionCurrent, versionLatest, versionLatestValid, buildHash, outdated, outpostOutdated,
      ()) =>
    ⟨versionCurrent, versionLatest, versionLatestValid, buildHash, outdated, outpostOutdated⟩)
  (fun r => (r.versionCurrent, r.versionLatest, r.versionLatestValid, r.buildHash, r.outdated,
      r.outpostOutdated, ()))

end Version

structure App where
  name : String
  label : String

namespace App

def columns : List Column := [
  required "name" string,
  required "label" string]

def codec : Codec App := (row "App" columns).map
  (fun (name, label, ()) =>
    ⟨name, label⟩)
  (fun r => (r.name, r.label, ()))

end App

end IdentityApi
