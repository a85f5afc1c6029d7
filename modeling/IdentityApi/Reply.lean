import IdentityApi.Codec.Basic
import IdentityApi.ErrorBody
import IdentityApi.Json.Reader
import IdentityApi.Request

/-! # Replies

What comes back from a server, and what a call makes of it: a refusal outside the successes,
otherwise a value that is decoded as the shape of the endpoint tells.
-/
namespace IdentityApi

/-! ## Statuses -/

structure Status where
  code : Nat
  deriving DecidableEq, Repr

namespace Status

/-- The reasons in ascending order of codes. -/
def reasons : List (Nat × String) := [
  (100, "Continue"), (101, "Switching Protocols"), (102, "Processing"), (103, "Early Hints"),
  (200, "OK"), (201, "Created"), (202, "Accepted"), (203, "Non Authoritative Information"),
  (204, "No Content"), (205, "Reset Content"), (206, "Partial Content"), (207, "Multi-Status"),
  (208, "Already Reported"), (226, "IM Used"),
  (300, "Multiple Choices"), (301, "Moved Permanently"), (302, "Found"), (303, "See Other"),
  (304, "Not Modified"), (305, "Use Proxy"), (307, "Temporary Redirect"),
  (308, "Permanent Redirect"),
  (400, "Bad Request"), (401, "Unauthorized"), (402, "Payment Required"), (403, "Forbidden"),
  (404, "Not Found"), (405, "Method Not Allowed"), (406, "Not Acceptable"),
  (407, "Proxy Authentication Required"), (408, "Request Timeout"), (409, "Conflict"),
  (410, "Gone"), (411, "Length Required"), (412, "Precondition Failed"),
  (413, "Payload Too Large"), (414, "URI Too Long"), (415, "Unsupported Media Type"),
  (416, "Range Not Satisfiable"), (417, "Expectation Failed"), (418, "I'm a teapot"),
  (421, "Misdirected Request"), (422, "Unprocessable Entity"), (423, "Locked"),
  (424, "Failed Dependency"), (425, "Too Early"), (426, "Upgrade Required"),
  (428, "Precondition Required"), (429, "Too Many Requests"),
  (431, "Request Header Fields Too Large"), (451, "Unavailable For Legal Reasons"),
  (500, "Internal Server Error"), (501, "Not Implemented"), (502, "Bad Gateway"),
  (503, "Service Unavailable"), (504, "Gateway Timeout"), (505, "HTTP Version Not Supported"),
  (506, "Variant Also Negotiates"), (507, "Insufficient Storage"), (508, "Loop Detected"),
  (510, "Not Extended"), (511, "Network Authentication Required")]

def reason (s : Status) : String := (reasons.lookup s.code).getD "<unknown status code>"

def text (s : Status) : String := toString s.code ++ " " ++ s.reason

def isSuccess (s : Status) : Bool := 200 ≤ s.code && s.code < 300

end Status

/-! ## Faults of calls -/

/-- No reply came. -/
inductive NetworkFault where
  /-- The transport could not make a message of the request. -/
  | unsendable
  /-- The connection broke while a request to a URL was sent or answered. -/
  | interrupted (url : String)
  deriving DecidableEq, Repr

def NetworkFault.message : NetworkFault → String
  | unsendable => "builder error"
  | interrupted url => "error sending request for url (" ++ url ++ ")"

/-- A reply came, but not what was asked for. -/
inductive DecodeFault where
  | content (fault : Codec.Fault)
  /-- Nothing but blanks where there has to be something. -/
  | blank (shape : Shape)
  /-- The body broke off. -/
  | broken
  deriving DecidableEq, Repr

def DecodeFault.message : DecodeFault → String
  | content fault => fault.message
  | blank shape => shape.name ++ " のレスポンスボディが空です"
  | broken => "error decoding response body"

inductive CallFault where
  | invalidRequest (fault : Request.Fault)
  | network (fault : NetworkFault)
  | cancelled
  | validation (body : String)
  | unauthorized (body : String)
  | forbidden (body : String)
  | notFound (body : String)
  | conflict (body : String)
  /-- A refusal for any other reason. -/
  | unexpected (status : Status) (body : String)
  | decode (fault : DecodeFault)
  deriving DecidableEq, Repr

namespace CallFault

/-- The fault that the refusal of a server is. -/
def refused (status : Status) (body : String) : CallFault :=
  match status.code with
  | 400 => validation body
  | 401 => unauthorized body
  | 403 => forbidden body
  | 404 => notFound body
  | 409 => conflict body
  | _ => unexpected status body

def message : CallFault → String
  | invalidRequest fault => "不正なリクエスト: " ++ fault.message
  | network fault => "ネットワークエラー: " ++ fault.message
  | cancelled => "リクエストがキャンセルされました"
  | validation body => "バリデーションエラー: " ++ body
  | unauthorized body => "認証に失敗しました: " ++ body
  | forbidden body => "権限がありません: " ++ body
  | notFound body => "リソースが見つかりません: " ++ body
  | conflict body => "競合が発生しました: " ++ body
  | unexpected status body => "予期しないステータス " ++ status.text ++ ": " ++ body
  | decode fault => "レスポンスのデコードに失敗しました: " ++ fault.message

/-- The name of the kind of fault. -/
def kindName : CallFault → String
  | invalidRequest _ => "InvalidRequest"
  | network _ => "Network"
  | cancelled => "Cancelled"
  | validation _ => "Validation"
  | unauthorized _ => "Unauthorized"
  | forbidden _ => "Forbidden"
  | notFound _ => "NotFound"
  | conflict _ => "Conflict"
  | unexpected _ _ => "Status"
  | decode _ => "Decode"

/-- The status that the server answered with. -/
def status? : CallFault → Option Status
  | validation _ => some ⟨400⟩
  | unauthorized _ => some ⟨401⟩
  | forbidden _ => some ⟨403⟩
  | notFound _ => some ⟨404⟩
  | conflict _ => some ⟨409⟩
  | unexpected status _ => some status
  | invalidRequest _ | network _ | cancelled | decode _ => none

def body? : CallFault → Option String
  | validation body | unauthorized body | forbidden body | notFound body | conflict body
  | unexpected _ body => some body
  | invalidRequest _ | network _ | cancelled | decode _ => none

/-- What the server says about the fault. -/
def errorBody? (f : CallFault) : Option ErrorBody := f.body?.bind ErrorBody.ofText?

def isNotFound : CallFault → Bool
  | notFound _ => true
  | _ => false

end CallFault

/-! ## What replies mean -/

structure Reply where
  status : Status
  headers : List Header := []
  /-- Absent when the body breaks off while it is read. -/
  body : Option Octets
  deriving DecidableEq, Repr

/-- The value of a whole text. -/
def Codec.read {α : Type} (c : Codec α) (s : Octets) : Except Codec.Fault α := do
  let d := Json.read s
  let a ← c.decode Json.maxDepth d.root
  if d.trailing then throw (.json .trailingText)
  return a

namespace Shape

/-- Space, tab, line feed, form feed and carriage return. -/
def isBlankOctet (b : UInt8) : Bool := b == 32 || b == 9 || b == 10 || b == 12 || b == 13

/-- The value of a body. An empty shape looks at no body; in the others a blank body counts as the
fallback of the shape. -/
def read {α : Type} (shape : Shape) (c : Codec α) (body : Octets) : Except DecodeFault α :=
  let found :=
    if shape = .empty then some (octetsOf "null")
    else if body.all isBlankOctet then shape.blankFallback.map octetsOf
    else some body
  match found with
  | some s => (c.read s).mapError .content
  | none => .error (.blank shape)

end Shape

namespace Reply

/-- The result of a call that got a reply. -/
def result {α : Type} (r : Reply) (shape : Shape) (c : Codec α) : Except CallFault α :=
  if r.status.isSuccess then
    match r.body with
    | some body => (shape.read c body).mapError .decode
    | none => .error (.decode .broken)
  else .error (.refused r.status (.ofList (Utf8.decodeLossy (r.body.getD []))))

end Reply

end IdentityApi
