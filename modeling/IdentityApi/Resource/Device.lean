import IdentityApi.Codec.Basic
import IdentityApi.Codec.Record
import IdentityApi.Query

/-! # Devices

Devices for authentication. Each kind has records of its own, of which the key and the name are
known and the rest is kept as it is.
-/
namespace IdentityApi

open Codec Query

inductive DeviceKind where
  | duo | email | sms | static | totp | webauthn
  deriving DecidableEq, Repr

instance : Choice DeviceKind where
  all := [.duo, .email, .sms, .static, .totp, .webauthn]
  name
    | .duo => "duo"
    | .email => "email"
    | .sms => "sms"
    | .static => "static"
    | .totp => "totp"
    | .webauthn => "webauthn"

structure Device where
  pk : Int64
  name : String
  verboseName : String
  verboseNamePlural : String
  metaModelName : String
  deviceType : String
  confirmed : Bool
  created : Option Timestamp
  lastUpdated : Option Timestamp
  lastUsed : Option Timestamp
  extraDescription : Option String
  externalId : Option String

namespace Device

def columns : List Column := [
  required "pk" int64,
  required "name" string,
  withDefault "verbose_name" string "",
  withDefault "verbose_name_plural" string "",
  withDefault "meta_model_name" string "",
  withDefault "type" string "",
  withDefault "confirmed" bool false,
  withDefault "created" (nullable timestamp) none,
  withDefault "last_updated" (nullable timestamp) none,
  withDefault "last_used" (nullable timestamp) none,
  withDefault "extra_description" (nullable string) none,
  withDefault "external_id" (nullable string) none]

def codec : Codec Device := (row "Device" columns).map
  (fun (pk, name, verboseName, verboseNamePlural, metaModelName, deviceType, confirmed, created,
      lastUpdated, lastUsed, extraDescription, externalId, ()) =>
    ⟨pk, name, verboseName, verboseNamePlural, metaModelName, deviceType, confirmed, created,
    lastUpdated, lastUsed, extraDescription, externalId⟩)
  (fun r => (r.pk, r.name, r.verboseName, r.verboseNamePlural, r.metaModelName, r.deviceType,
      r.confirmed, r.created, r.lastUpdated, r.lastUsed, r.extraDescription, r.externalId, ()))

end Device

/-- The kind that the name of a device's model tells: what stands between the last point and
`device`. -/
def Device.kind (d : Device) : Option DeviceKind :=
  let name := (d.metaModelName.toList.reverse.takeWhile (· != '.')).reverse
  let ending := "device".toList
  if ending.isSuffixOf name then
    Choice.ofName? (String.ofList (name.take (name.length - ending.length)))
  else none

structure DeviceRecord where
  pk : Int64
  name : String
  extra : KeyMap Json.Value

namespace DeviceRecord

def columns : List Column := [
  required "pk" int64,
  required "name" string]

def codec : Codec DeviceRecord := (openRow "DeviceRecord" columns).map
  (fun ((pk, name, ()), extra) => ⟨pk, name, extra⟩)
  (fun r => ((r.pk, r.name, ()), r.extra))

/-- A member that depends on the kind of device. -/
def field (r : DeviceRecord) (name : String) : Option Json.Value := KeyMap.get? name r.extra

end DeviceRecord

structure DeviceRequest where
  name : String
  extra : KeyMap Json.Value := ∅

def DeviceRequest.toJson (r : DeviceRequest) : Json.Value := .object (
  field "name" string r.name ++
  r.extra.pairs)

structure PatchedDeviceRequest where
  name : Option String := none
  extra : KeyMap Json.Value := ∅

def PatchedDeviceRequest.toJson (r : PatchedDeviceRequest) : Json.Value := .object (
  given "name" string r.name ++
  r.extra.pairs)

structure DeviceFilter where
  name : Option String := none
  paging : Paging := {}
  deriving DecidableEq

def DeviceFilter.toQuery (f : DeviceFilter) : Query := ⟨
  entry "name" f.name ++
  f.paging.entries⟩

end IdentityApi
