import IdentityApi.Reply
import IdentityApi.Request
import IdentityApi.Text.Basic

/-! # Messages of HTTP

The octets that carry a request, and the reply that the octets of a connection carry up to its end.
The connection is to be closed after the reply.
-/
namespace IdentityApi

/-! ## Writing requests -/

namespace Http

def lineEnd : String := "\r\n"

/-- What is asked of the server: path and query. -/
def target (u : Url) : String :=
  let path := u.path.text
  (if path = "" then "/" else path) ++ Url.optionText "?" u.query

/-- The server as it is named in a request. -/
def hostText (u : Url) : String :=
  match u.authority with
  | some a => a.host ++ a.portText
  | none => ""

def fieldLine (name value : String) : String := name ++ ": " ++ value ++ lineEnd

def lengthLine : Option Octets → String
  | none => ""
  | some body => fieldLine "content-length" (toString body.length)

/-- Everything before the body. -/
def head (userAgent : String) (r : Request) : String :=
  r.method ++ " " ++ target r.url ++ " HTTP/1.1" ++ lineEnd ++
    fieldLine "host" (hostText r.url) ++ fieldLine "user-agent" userAgent ++
    String.join (r.headers.map fun h => fieldLine h.name h.value) ++ lengthLine r.body ++
    fieldLine "connection" "close" ++ lineEnd

def message (userAgent : String) (r : Request) : Octets :=
  octetsOf (head userAgent r) ++ r.body.getD []

end Http

/-! ## Reading replies

The body is cut into chunks, has a length that is told in front of it, or goes on to the end. One
that ends too early is broken.
-/

namespace Http

/-- The first line without its end, and what follows. -/
def takeLine : Octets → Option (Octets × Octets)
  | [] => none
  | b :: rest =>
    if b = 10 then some ([], rest)
    else
      match takeLine rest with
      | some (line, more) => some (if b = 13 ∧ line = [] then [] else b :: line, more)
      | none => none

theorem takeLine_length {s line rest : Octets} (h : takeLine s = some (line, rest)) :
    rest.length < s.length := by
  induction s generalizing line with
  | nil => simp [takeLine] at h
  | cons b s ih =>
    simp only [takeLine] at h
    split at h
    · simp only [Option.some.injEq, Prod.mk.injEq] at h
      simp [h.2]
    · cases hs : takeLine s with
      | none => simp [hs] at h
      | some p =>
        obtain ⟨found, more⟩ := p
        simp only [hs, Option.some.injEq, Prod.mk.injEq] at h
        have := ih (h.2 ▸ hs)
        simp only [List.length_cons]
        omega

/-- A field of the head; blanks around its value do not count. -/
def header? (line : Octets) : Option Header :=
  let s := Utf8.decodeLossy line
  match s.dropWhile (· != ':') with
  | [] => none
  | _ :: value =>
    some ⟨.ofList ((s.takeWhile (· != ':')).map Char.toLower), .ofList (trimBlanks value), false⟩

/-- The fields of the head up to the empty line, and what follows. -/
def headers (s : Octets) : Option (List Header × Octets) :=
  match _h : takeLine s with
  | none => none
  | some ([], rest) => some ([], rest)
  | some (line, rest) => do
    let first ← header? line
    let (more, body) ← headers rest
    return (first :: more, body)
termination_by s.length
decreasing_by exact takeLine_length _h

/-- The status of the first line. -/
def status? (line : Octets) : Option Status :=
  match Utf8.decodeLossy line with
  | 'H' :: 'T' :: 'T' :: 'P' :: '/' :: '1' :: '.' :: _ :: ' ' :: a :: b :: c :: _ =>
    match Integer.natural 999 [a, b, c] with
    | .ok n => some ⟨n⟩
    | .error _ => none
  | _ => none

/-- The octets of a body in chunks: the content of each behind its length, up to an empty one. No
result when the body breaks off. -/
def chunks (s : Octets) : Option Octets :=
  match _h : takeLine s with
  | none => none
  | some (line, rest) =>
    let digits := (Utf8.decodeLossy line).takeWhile fun c => (Hex.value? c).isSome
    let n := digits.foldl (fun n c => n * 16 + (Hex.value? c).getD 0) 0
    if digits.isEmpty then none
    else if n = 0 then some []
    else if rest.length < n + 2 then none
    else (chunks (rest.drop (n + 2))).map (rest.take n ++ ·)
termination_by s.length
decreasing_by
  have := takeLine_length _h
  simp only [List.length_drop]
  omega

def field? (name : String) (l : List Header) : Option String :=
  (l.find? (·.name == name)).map Header.value

/-- The body that follows a head. -/
def bodyOf (status : Status) (l : List Header) (s : Octets) : Option Octets :=
  if status.code = 204 ∨ status.code = 304 then some []
  else if field? "transfer-encoding" l = some "chunked" then chunks s
  else
    match field? "content-length" l with
    | none => some s
    | some value =>
      match Integer.natural (UInt64.size - 1) value.toList with
      | .ok n => if s.length < n then none else some (s.take n)
      | .error _ => none

/-- The reply of a connection. Replies that only tell that there will be another one are skipped;
no more of them than `limit`. -/
def reply? : (limit : Nat) → Octets → Option Reply
  | 0, _ => none
  | limit + 1, s => do
    let (line, rest) ← takeLine s
    let status ← status? line
    let (l, body) ← headers rest
    if status.code < 200 then reply? limit body
    else return { status, headers := l, body := bodyOf status l body }

end Http

end IdentityApi
