import IdentityApi.Reply
import IdentityApi.Request
import IdentityApi.Text.Basic
import IdentityApi.Text.Printable
import IdentityApi.Url.Basic

/-! # Clients and their configuration

A configuration comes from the variables of an environment; its base URL and its token are only
checked when a client is made of it. A client has a base URL that ends with a slash, perhaps a token
that goes with every request, and perhaps the name of the switch that cancels its calls.
-/
namespace IdentityApi

/-! ## Faults of a configuration -/

namespace Config

/-- Why a number of seconds is refused. -/
inductive TimeoutFault where
  | number (fault : Integer.Fault)
  | zero
  deriving DecidableEq, Repr

def TimeoutFault.message : TimeoutFault → String
  | number fault => fault.message
  | zero => "0 秒は指定できません"

/-- Why a text is no base URL. -/
inductive BaseFault where
  | url (fault : Url.Fault)
  | scheme
  deriving DecidableEq, Repr

def BaseFault.message : BaseFault → String
  | url fault => fault.message
  | scheme => "http / https 以外のスキームは使用できません"

inductive Fault where
  | missing (name : String)
  | invalidTimeout (name : String) (fault : TimeoutFault)
  /-- With the text as it was given. -/
  | invalidBase (text : String) (fault : BaseFault)
  /-- The token does not fit into a header. -/
  | invalidToken
  /-- The name of the program does not fit into a header. -/
  | invalidAgent
  deriving DecidableEq, Repr

def Fault.message : Fault → String
  | missing name => name ++ " が設定されていません"
  | invalidTimeout name fault => name ++ " の値が不正です: " ++ fault.message
  | invalidBase text fault => "ベース URL が不正です: " ++ text ++ ": " ++ fault.message
  | invalidToken => "API トークンに使用できない文字が含まれています"
  | invalidAgent => "HTTP クライアントを初期化できません: builder error"

/-- The name of the kind of fault. -/
def Fault.kindName : Fault → String
  | missing _ => "Missing"
  | invalidTimeout _ _ => "Invalid"
  | invalidBase _ _ => "InvalidBaseUrl"
  | invalidToken => "InvalidToken"
  | invalidAgent => "HttpClient"

end Config

/-! ## Configuration -/

structure Config where
  baseUrl : String
  token : Option String
  /-- In seconds, at least one. -/
  timeout : Option Nat
  userAgent : String
  deriving DecidableEq, Repr

namespace Config

def defaultUserAgent : String := "authentik-client-rs/0.1.0"

def urlVariable : String := "AUTHENTIK_URL"

def tokenVariable : String := "AUTHENTIK_TOKEN"

def timeoutVariable : String := "AUTHENTIK_TIMEOUT_SECS"

def ofBase (baseUrl : String) : Config := ⟨baseUrl, none, none, defaultUserAgent⟩

def withToken (c : Config) (token : String) : Config := { c with token := some token }

/-- A whole number of seconds, with blanks around it. -/
def timeoutOf (s : String) : Except TimeoutFault Nat :=
  match Integer.natural (UInt64.size - 1) (trimBlanks s.toList) with
  | .error fault => .error (.number fault)
  | .ok 0 => .error .zero
  | .ok n => .ok n

/-- Reads variables. A blank URL counts as missing, an empty token as none. -/
def ofLookup (lookup : String → Option String) : Except Fault Config := do
  let baseUrl ← match lookup urlVariable with
    | some s => if s.toList.all isBlank then throw (.missing urlVariable) else pure s
    | none => throw (.missing urlVariable)
  let token := (lookup tokenVariable).filter (· != "")
  let timeout ← match lookup timeoutVariable with
    | none => pure none
    | some s =>
      match timeoutOf s with
      | .ok n => pure (some n)
      | .error fault => throw (.invalidTimeout timeoutVariable fault)
  return ⟨baseUrl, token, timeout, defaultUserAgent⟩

def optionText : Option String → String
  | none => "None"
  | some s => "Some(" ++ s ++ ")"

/-- The form in diagnostics; the token stays hidden. -/
def debugText (c : Config) : String :=
  "ClientConfig \x7b base_url: " ++ quote c.baseUrl ++
    ", token: " ++ optionText (c.token.map fun _ => quote "***") ++
    ", timeout: " ++ optionText (c.timeout.map fun n => toString n ++ "s") ++
    ", user_agent: " ++ quote c.userAgent ++ " \x7d"

end Config

/-! ## Clients -/

structure Client where
  base : Url
  /-- The value of the header that carries the token. -/
  authorization : Option String := none
  cancellation : Option String := none
  deriving DecidableEq, Repr

namespace Client

/-- Takes away the slashes at the end. -/
def trimSlashes (s : List Char) : List Char := (s.reverse.dropWhile (· == '/')).reverse

/-- The base URL of a text: without blanks around it, with exactly one slash at its end. -/
def baseOf (text : String) : Except Config.Fault Url :=
  match Url.parse (.ofList (trimSlashes (trimBlanks text.toList) ++ ['/'])) with
  | .error fault => .error (.invalidBase text (.url fault))
  | .ok u =>
    if u.scheme = "http" ∨ u.scheme = "https" then .ok u else .error (.invalidBase text .scheme)

/-- Characters that a header may hold. -/
def fitsHeader (c : Char) : Bool := (32 ≤ c.toNat && c.toNat != 127) || c == '\t'

def ofBase (text : String) : Except Config.Fault Client :=
  (baseOf text).map fun base => { base }

def withToken (c : Client) (token : String) : Except Config.Fault Client :=
  if token.toList.all fitsHeader then .ok { c with authorization := some ("Bearer " ++ token) }
  else .error .invalidToken

/-- A client with a token, if there is one. The base URL is checked first. -/
def create (text : String) (token : Option String) : Except Config.Fault Client :=
  match token with
  | none => ofBase text
  | some t => do (← ofBase text).withToken t

/-- The client of a configuration. The name of the program is checked before all else. -/
def ofConfig (c : Config) : Except Config.Fault Client :=
  if c.userAgent.toList.all fitsHeader then create c.baseUrl c.token else .error .invalidAgent

def withCancellation (c : Client) (switch : String) : Client :=
  { c with cancellation := some switch }

def boolText (b : Bool) : String := if b then "true" else "false"

/-- The form in diagnostics; the token stays hidden. -/
def debugText (c : Client) : String :=
  "AuthentikClientImpl \x7b base_url: " ++ quote c.base.text ++
    ", authenticated: " ++ boolText c.authorization.isSome ++
    ", cancellable: " ++ boolText c.cancellation.isSome ++ " \x7d"

end Client

end IdentityApi
