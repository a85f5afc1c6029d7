import IdentityApi.Resource.Administration
import IdentityApi.Resource.Application
import IdentityApi.Resource.Basic
import IdentityApi.Resource.Device
import IdentityApi.Resource.Event
import IdentityApi.Resource.Flow
import IdentityApi.Resource.Group
import IdentityApi.Resource.Token
import IdentityApi.Resource.User

/-! # Resources

Every kind of record that the service answers with, under its name.
-/
namespace IdentityApi

inductive Resource where
  | app | application | device | deviceRecord | event | eventTopPerUser | flow | group
  | groupMember | policyTestResult | sessionUser | systemInfo | systemRuntime | token | tokenView
  | typeCreate | usedBy | user | userGroup | userPath | userSelf | userSelfGroup | version
  deriving DecidableEq, Repr

namespace Resource

instance : Choice Resource where
  all := [.app, .application, .device, .deviceRecord, .event, .eventTopPerUser, .flow, .group,
    .groupMember, .policyTestResult, .sessionUser, .systemInfo, .systemRuntime, .token, .tokenView,
    .typeCreate, .usedBy, .user, .userGroup, .userPath, .userSelf, .userSelfGroup, .version]
  name
    | .app => "App"
    | .application => "Application"
    | .device => "Device"
    | .deviceRecord => "DeviceRecord"
    | .event => "Event"
    | .eventTopPerUser => "EventTopPerUser"
    | .flow => "Flow"
    | .group => "Group"
    | .groupMember => "GroupMember"
    | .policyTestResult => "PolicyTestResult"
    | .sessionUser => "SessionUser"
    | .systemInfo => "SystemInfo"
    | .systemRuntime => "SystemRuntime"
    | .token => "Token"
    | .tokenView => "TokenView"
    | .typeCreate => "TypeCreate"
    | .usedBy => "UsedBy"
    | .user => "User"
    | .userGroup => "UserGroup"
    | .userPath => "UserPath"
    | .userSelf => "UserSelf"
    | .userSelfGroup => "UserSelfGroup"
    | .version => "Version"

/-- The records of a kind. -/
def Record : Resource → Type
  | app => App
  | application => Application
  | device => Device
  | deviceRecord => DeviceRecord
  | event => Event
  | eventTopPerUser => EventTopPerUser
  | flow => Flow
  | group => Group
  | groupMember => GroupMember
  | policyTestResult => PolicyTestResult
  | sessionUser => SessionUser
  | systemInfo => SystemInfo
  | systemRuntime => SystemRuntime
  | token => Token
  | tokenView => TokenView
  | typeCreate => TypeCreate
  | usedBy => UsedBy
  | user => User
  | userGroup => UserGroup
  | userPath => UserPath
  | userSelf => UserSelf
  | userSelfGroup => UserSelfGroup
  | version => Version

def codec : (r : Resource) → Codec r.Record
  | app => App.codec
  | application => Application.codec
  | device => Device.codec
  | deviceRecord => DeviceRecord.codec
  | event => Event.codec
  | eventTopPerUser => EventTopPerUser.codec
  | flow => Flow.codec
  | group => Group.codec
  | groupMember => GroupMember.codec
  | policyTestResult => PolicyTestResult.codec
  | sessionUser => SessionUser.codec
  | systemInfo => SystemInfo.codec
  | systemRuntime => SystemRuntime.codec
  | token => Token.codec
  | tokenView => TokenView.codec
  | typeCreate => TypeCreate.codec
  | usedBy => UsedBy.codec
  | user => User.codec
  | userGroup => UserGroup.codec
  | userPath => UserPath.codec
  | userSelf => UserSelf.codec
  | userSelfGroup => UserSelfGroup.codec
  | version => Version.codec

end Resource

end IdentityApi
