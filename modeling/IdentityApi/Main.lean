import IdentityApi.Http
import IdentityApi.Program
import Std.Async.DNS
import Std.Async.TCP

/-! # The command `authentik`

Gathers what the program is started with, sends its request, and prints what it says. Connections
are plain: a URL of any scheme but `http` cannot be reached.
-/
namespace IdentityApi.Shell

open Std.Net (IPAddr IPv4Addr IPv6Addr SocketAddress)
open Std.Async (Async)
open Std.Async.TCP

/-! ## What is given -/

/-- The variables that the program looks at. -/
def ownVariables : List String := [
  Config.urlVariable, Config.tokenVariable, Config.timeoutVariable, Log.Format.settingName,
  Program.filterVariable]

/-- The assignments of a process, which end with a zero octet each. -/
def assignments (s : Octets) : Environment :=
  (s.splitBy fun a _ => a != 0).filterMap fun line =>
    match Utf8.decode? (line.filter (· != 0)) with
    | some cs =>
      match cs.dropWhile (· != '=') with
      | _ :: value => some (.ofList (cs.takeWhile (· != '=')), .ofList value)
      | [] => none
    | none => none

def file? (name : String) : IO (Option Octets) := do
  try return some (← IO.FS.readBinFile name).toList
  catch _ => return none

/-- The environment of the process, as far as it can be read. -/
def environment : IO Environment := do
  match ← file? "/proc/self/environ" with
  | some s => return assignments s
  | none =>
    return (← ownVariables.mapM fun name => return (← IO.getEnv name).map (name, ·)).filterMap
      fun e => e

/-- The settings file of the current directory, or of the nearest one above it that has one. -/
def settingsFile : IO (Option Octets) := do
  let depth := (splitAt '/' (toString (← IO.currentDir)).toList).length
  (List.range depth).findSomeM? fun n =>
    file? (String.join (List.replicate n "../") ++ ".env")

/-! ## The network -/

def addresses (u : Url) : Async (List SocketAddress) := do
  match u.scheme, u.authority with
  | "http", some a =>
    let number := UInt16.ofNat (a.portNumber.getD 80)
    let host : String := .ofList (a.host.toList.filter fun c => c != '[' && c != ']')
    let ofIp : IPAddr → SocketAddress
      | .v4 addr => .v4 ⟨addr, number⟩
      | .v6 addr => .v6 ⟨addr, number⟩
    match IPv4Addr.ofString host, IPv6Addr.ofString host with
    | some addr, _ => return [ofIp (.v4 addr)]
    | none, some addr => return [ofIp (.v6 addr)]
    | none, none => return (← Std.Async.DNS.getAddrInfo host "").toList.map ofIp
  | _, _ => return []

def dial (a : SocketAddress) : Async Socket.Client := do
  let c ← Socket.Client.mk
  c.connect a
  return c

/-- Connects to the first address that answers. -/
def connect : List SocketAddress → Async Socket.Client
  | [] => throw (IO.userError "no address")
  | a :: rest => do
    try dial a
    catch _ => connect rest

/-- Receives everything up to the end of a connection. -/
partial def receive (c : Socket.Client) (got : ByteArray) : Async ByteArray := do
  match ← c.recv? 65536 with
  | some more => receive c (got ++ more)
  | none => return got

def exchange (userAgent : String) (r : Request) : Async Octets := do
  let c ← connect (← addresses r.url)
  c.sendAll #[⟨(Http.message userAgent r).toArray⟩]
  return (← receive c .empty).toList

/-- Sends a request once. -/
def send (userAgent : String) (r : Request) : IO (Except NetworkFault Reply) := do
  let interrupted := Except.error (NetworkFault.interrupted r.url.text)
  try
    match Http.reply? 16 (← (exchange userAgent r).block) with
    | some reply => return .ok reply
    | none => return interrupted
  catch _ => return interrupted

/-! ## What is said -/

def now : IO String := do
  let n := (← Std.Time.Timestamp.now).toNanosecondsSinceUnixEpoch.val.toNat
  return (Timestamp.ofUnixTime (n / 1000000000) (n % 1000000000 / 1000 * 1000)).text

def lineText (time : String) : Log.Line → String
  | .plain s => time ++ " " ++ s
  | .object members => (Json.Value.object (("timestamp", .string time) :: members)).compact
  | .notice s => s

def printLines (lines : List Log.Line) : IO Unit :=
  lines.forM fun l => do IO.eprintln (lineText (← now) l)

def finish (e : Program.Ending) : IO UInt32 := do
  match e with
  | .output s => IO.print s
  | .report s => IO.eprintln s
  return .ofNat e.exitCode

def usage : String := "Usage: " ++ Program.name ++ " [OPTIONS] <COMMAND>"

def refuse (fault : CommandLine.Fault) : IO UInt32 := do
  match fault with
  | .helpAsked => IO.println usage
  | .versionAsked => IO.print Program.versionLine
  | .unread => IO.eprintln "failed to set an environment variable"
  | _ => IO.eprintln ("error: " ++ fault.kindName ++ "\n\n" ++ usage)
  return .ofNat fault.exitCode

def run (words : List String) : IO UInt32 := do
  let stage := Program.start { words, environment := ← environment, dotenv := ← settingsFile }
  match ← stage.conclude printLines fun config => send config.userAgent with
  | .error fault => refuse fault
  | .ok e => finish e

end IdentityApi.Shell

def main (words : List String) : IO UInt32 := IdentityApi.Shell.run words
