import IdentityApi.Text.Percent

/-! # URLs

A URL as a record of its parts, each already in its encoded form, and the text of the whole; which
characters each part keeps; why a text is no URL.
-/
namespace IdentityApi

/-! ## Parts and text -/

namespace Url

/-- What stands between `//` and the path. -/
structure Authority where
  username : String := ""
  password : String := ""
  host : String
  /-- Absent when it is the usual one of the scheme. -/
  portNumber : Option Nat := none
  deriving DecidableEq, Repr

inductive Path where
  /-- Segments, each written behind a slash. -/
  | segments (list : List String)
  /-- A text without segments, as after `mailto:`. -/
  | rigid (text : String)
  deriving DecidableEq, Repr

end Url

structure Url where
  scheme : String
  authority : Option Url.Authority
  path : Url.Path
  query : Option String
  fragment : Option String
  deriving DecidableEq, Repr

namespace Url

namespace Authority

def credentials (a : Authority) : String :=
  if a.username = "" ∧ a.password = "" then ""
  else if a.password = "" then a.username ++ "@"
  else a.username ++ ":" ++ a.password ++ "@"

def portText (a : Authority) : String :=
  match a.portNumber with
  | none => ""
  | some n => ":" ++ toString n

def text (a : Authority) : String := a.credentials ++ a.host ++ a.portText

end Authority

namespace Path

def text : Path → String
  | segments list => String.join (list.map ("/" ++ ·))
  | rigid s => s

end Path

/-- The text before the path. A path that would read as an authority is kept apart from the scheme
by a dot segment. -/
def origin (u : Url) : String :=
  match u.authority with
  | some a => u.scheme ++ "://" ++ a.text
  | none =>
    match u.path with
    | .segments ("" :: _ :: _) => u.scheme ++ ":/."
    | _ => u.scheme ++ ":"

def optionText (mark : String) : Option String → String
  | none => ""
  | some s => mark ++ s

def text (u : Url) : String :=
  u.origin ++ u.path.text ++ optionText "?" u.query ++ optionText "#" u.fragment

def isSpecialScheme (scheme : String) : Bool :=
  scheme == "http" || scheme == "https" || scheme == "ws" || scheme == "wss" || scheme == "ftp" ||
    scheme == "file"

/-- The usual port of a scheme. -/
def usualPort (scheme : String) : Option Nat :=
  if scheme = "http" ∨ scheme = "ws" then some 80
  else if scheme = "https" ∨ scheme = "wss" then some 443
  else if scheme = "ftp" then some 21
  else none

end Url

/-! ## Encoding

Which characters a part keeps. The sets grow from the fragment to the credentials.
-/

namespace Url

/-- Printable ASCII. -/
def keepsPlain (c : Char) : Bool := 0x20 ≤ c.toNat && c.toNat < 0x7F

def keepsQuery (c : Char) : Bool :=
  keepsPlain c && !(c == ' ' || c == '"' || c == '#' || c == '<' || c == '>')

/-- In a special scheme the single quote is encoded too. -/
def keepsSpecialQuery (c : Char) : Bool := keepsQuery c && c != '\''

def keepsFragment (c : Char) : Bool :=
  keepsPlain c && !(c == ' ' || c == '"' || c == '<' || c == '>' || c.toNat == 0x60)

def keepsPath (c : Char) : Bool :=
  keepsFragment c && !(c == '#' || c == '?' || c == '{' || c == '}')

def keepsCredentials (c : Char) : Bool :=
  keepsPath c && !(c == '/' || c == ':' || c == ';' || c == '=' || c == '@' || c == '[' ||
    c == '\\' || c == ']' || c == '^' || c == '|')

def encoded (keep : Char → Bool) (s : List Char) : String := .ofList (Percent.encode keep s)

end Url

/-! ## Faults -/

namespace Url

inductive Fault where
  | emptyHost
  | badDomain
  | badPort
  | badIpv4
  | badIpv6
  | badHostCharacter
  /-- No scheme, and nothing to resolve against. -/
  | noBase
  /-- No scheme, and the base has a path without segments. -/
  | rigidBase
  deriving DecidableEq, Repr

def Fault.message : Fault → String
  | emptyHost => "empty host"
  | badDomain => "invalid international domain name"
  | badPort => "invalid port number"
  | badIpv4 => "invalid IPv4 address"
  | badIpv6 => "invalid IPv6 address"
  | badHostCharacter => "invalid domain character"
  | noBase => "relative URL without a base"
  | rigidBase => "relative URL with a cannot-be-a-base base"

end Url

end IdentityApi
