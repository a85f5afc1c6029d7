import IdentityApi.Url.Basic
import IdentityApi.Url.Host

/-! # Reading URLs

`Url.parse` reads a text that stands alone, `Url.join` one that is relative to a base. Reading goes
from left to right; each part ends at the first character that may not stand in it.
-/
namespace IdentityApi.Url
namespace Reader

/-! ## Characters -/

def isSlash (special : Bool) (c : Char) : Bool := c == '/' || (special && c == '\\')

/-- Where a path ends. -/
def endsPath (c : Char) : Bool := c == '?' || c == '#'

/-- Where an authority ends. -/
def endsAuthority (special : Bool) (c : Char) : Bool := isSlash special c || endsPath c

/-- Takes away blanks and controls at both ends, and tabs and line ends anywhere. -/
def cleaned (s : List Char) : List Char :=
  let isEdge (c : Char) : Bool := c.toNat ≤ 0x20
  let trimmed := ((s.dropWhile isEdge).reverse.dropWhile isEdge).reverse
  trimmed.filter fun c => !(c == '\t' || c == '\n' || c == '\r')

/-- The scheme in lower case and what follows its colon. -/
def scheme? (s : List Char) : Option (String × List Char) :=
  match s with
  | [] => none
  | c :: _ =>
    if c.isAlpha then
      let isPart (c : Char) : Bool := c.isAlphanum || c == '+' || c == '-' || c == '.'
      match s.dropWhile isPart with
      | ':' :: r => some (.ofList ((s.takeWhile isPart).map Char.toLower), r)
      | _ => none
    else none

/-! ## Paths -/

def isSingleDot (s : List Char) : Bool := s == ['.'] || s.map Char.toLower == ['%', '2', 'e']

def isDoubleDot (s : List Char) : Bool :=
  let t := s.map Char.toLower
  t == ['.', '.'] || t == ['.', '%', '2', 'e'] || t == ['%', '2', 'e', '.'] ||
    t == ['%', '2', 'e', '%', '2', 'e']

/-- A text cut at slashes. -/
def segments (special : Bool) : List Char → List (List Char)
  | [] => [[]]
  | c :: r =>
    match segments special r with
    | [] => [[c]]
    | s :: rest => if isSlash special c then [] :: s :: rest else (c :: s) :: rest

/-- A letter and a colon or a bar. -/
def isDriveLetter (s : List Char) : Bool :=
  match s with
  | [c, d] => c.isAlpha && (d == ':' || d == '|')
  | _ => false

/-- A text that begins with the letter of a drive as a whole segment. -/
def startsWithDrive (s : List Char) : Bool :=
  isDriveLetter (s.take 2) &&
    match (s.drop 2).head? with
    | none => true
    | some c => isSlash true c || endsPath c

def isDrive (s : String) : Bool :=
  match s.toList with
  | [c, ':'] => c.isAlpha
  | _ => false

/-- Leaves the last segment, which stands first here. The letter of a drive stays. -/
def leave (file : Bool) : List String → List String
  | [] => []
  | [s] => if file && isDrive s then [s] else []
  | _ :: rest => rest

/-- Enters a segment. -/
def enter (file : Bool) (path : List String) (s : List Char) : List String :=
  if file && path.isEmpty && isDriveLetter s then .ofList (s.take 1 ++ [':']) :: path
  else encoded keepsPath s :: path

/-- Follows segments from a path whose last segment stands first. Dot segments at the end leave an
empty segment behind. -/
def walk (file : Bool) (path : List String) : List (List Char) → List String
  | [] => path.reverse
  | [s] =>
    (if isDoubleDot s then "" :: leave file path
      else if isSingleDot s then "" :: path
      else enter file path s).reverse
  | s :: rest =>
    walk file
      (if isDoubleDot s then leave file path
        else if isSingleDot s then path
        else enter file path s)
      rest

/-- In files, empty segments at the front do not count. -/
def withoutFront (file : Bool) (path : List String) : List String :=
  if file then
    match path.dropWhile (· == "") with
    | [] => [""]
    | rest => rest
  else path

/-- The path that a text leads to from another path. -/
def pathFrom (scheme : String) (path : List String) (s : List Char) : Path :=
  let file := scheme == "file"
  .segments (withoutFront file (walk file path.reverse (segments (isSpecialScheme scheme) s)))

/-! ## Query and fragment -/

def fragment (s : List Char) : String := encoded keepsFragment s

def queryText (scheme : String) (s : List Char) : String :=
  encoded (if isSpecialScheme scheme then keepsSpecialQuery else keepsQuery) s

/-- The query and the fragment of what follows a path. -/
def ending (scheme : String) : List Char → Option String × Option String
  | '?' :: r =>
    (some (queryText scheme (r.takeWhile (· != '#'))),
      match r.dropWhile (· != '#') with
      | '#' :: f => some (fragment f)
      | _ => none)
  | '#' :: f => (none, some (fragment f))
  | _ => (none, none)

/-- A URL from its authority, where its path begins, and the rest of the text. -/
def withPath (scheme : String) (authority : Option Authority) (path : List String)
    (s : List Char) : Url :=
  let (query, fragment) := ending scheme (s.dropWhile (!endsPath ·))
  ⟨scheme, authority, pathFrom scheme path (s.takeWhile (!endsPath ·)), query, fragment⟩

/-! ## Authority -/

/-- The place of the last `@` before the authority ends, as what stands before it and behind it. -/
def splitCredentials (special : Bool) (s : List Char) : Option (List Char × List Char) :=
  let region := s.takeWhile (!endsAuthority special ·)
  if region.contains '@' then
    let behind := (region.reverse.takeWhile (· != '@')).reverse
    let n := region.length - behind.length
    some (s.take (n - 1), s.drop n)
  else none

/-- The host at the front: up to a colon outside brackets or the end of the authority. -/
def hostPart (special : Bool) : (inside : Bool) → List Char → List Char × List Char
  | _, [] => ([], [])
  | inside, c :: r =>
    if (c == ':' && !inside) || endsAuthority special c then ([], c :: r)
    else
      let inside := if c == '[' then true else if c == ']' then false else inside
      let (host, rest) := hostPart special inside r
      (c :: host, rest)

/-- A number up to 65535, or nothing; what is usual for the scheme is left out. -/
def portPart (scheme : String) : List Char → Except Fault (Option Nat × List Char)
  | ':' :: r =>
    let digits := r.takeWhile Char.isDigit
    let rest := r.dropWhile Char.isDigit
    let n := digits.foldl (fun n c => n * 10 + (c.toNat - 48)) 0
    if 65535 < n then .error .badPort
    else
      match rest.head? with
      | none => .ok (usual digits n, rest)
      | some c => if endsAuthority true c then .ok (usual digits n, rest) else .error .badPort
  | s => .ok (none, s)
where
  usual (digits : List Char) (n : Nat) : Option Nat :=
    if digits = [] ∨ usualPort scheme = some n then none else some n

/-- Name and password; both are empty when there is nothing before the `@`. -/
def credentials (s : List Char) : String × String :=
  (encoded keepsCredentials (s.takeWhile (· != ':')),
    encoded keepsCredentials ((s.dropWhile (· != ':')).drop 1))

/-- The authority at the front and what follows it. -/
def authority (scheme : String) (s : List Char) : Except Fault (Authority × List Char) :=
  let special := isSpecialScheme scheme
  let found := splitCredentials special s
  let (before, s) := found.getD ([], s)
  let (username, password) := credentials before
  let (hostText, rest) := hostPart special false s
  if hostText = [] then
    let bareMark := found.isSome ∧ before = [] ∧ rest ≠ []
    if special ∨ rest.head? = some ':' ∨ username ≠ "" ∨ password ≠ "" ∨ bareMark then
      .error .emptyHost
    else .ok (⟨"", "", "", none⟩, rest)
  else
    match Host.ofText special hostText with
    | .error fault => .error fault
    | .ok host => (portPart scheme rest).map fun (n, rest) => (⟨username, password, host, n⟩, rest)

/-- What follows `//`. -/
def afterSlashes (scheme : String) (s : List Char) : Except Fault Url :=
  match authority scheme s with
  | .error fault => .error fault
  | .ok (a, rest) =>
    match rest.head? with
    | none =>
      if isSpecialScheme scheme then .ok (withPath scheme (some a) [] [])
      else .ok ⟨scheme, some a, .segments [], none, none⟩
    | some c =>
      if isSlash (isSpecialScheme scheme) c then .ok (withPath scheme (some a) [] (rest.drop 1))
      else if isSpecialScheme scheme then .ok (withPath scheme (some a) [] rest)
      else if endsPath c then
        let (query, fragment) := ending scheme rest
        .ok ⟨scheme, some a, .segments [], query, fragment⟩
      else .ok (withPath scheme (some a) [] rest)

/-! ## Files -/

/-- The host of a file. The own machine has none. -/
def fileHost (s : List Char) : Except Fault (String × List Char) :=
  let host := s.takeWhile (!endsAuthority true ·)
  let rest := s.dropWhile (!endsAuthority true ·)
  if host = [] then .ok ("", rest)
  else if isDriveLetter host then .ok ("", s)
  else
    (Host.ofText true host).map fun host => (if host = "localhost" then "" else host, rest)

def file (host : String) (path : List String) (s : List Char) : Url :=
  withPath "file" (some { host }) path s

def afterFileSlashes (s : List Char) : Except Fault Url :=
  match fileHost s with
  | .error fault => .error fault
  | .ok (host, rest) =>
    let behind := match rest with
      | c :: r => if isSlash true c then r else c :: r
      | [] => []
    let url := file host [] behind
    match url.path with
    | .segments (s :: _) => .ok (if isDrive s then file "" [] behind else url)
    | .rigid _ => .ok url
    | .segments [] => .ok url

/-- The segments of a path. -/
def segmentsOf (u : Url) : List String :=
  match u.path with
  | .segments list => list
  | .rigid _ => []

def hostOf (u : Url) : String :=
  match u.authority with
  | some a => a.host
  | none => ""

/-- The last segment is left, the rest is where a relative path begins. -/
def folder (u : Url) : List String :=
  (leave (u.scheme == "file") (segmentsOf u).reverse).reverse

/-- A text behind `file:`, with the base if that is a file. -/
def fileUrl (base : Option Url) (s : List Char) : Except Fault Url :=
  match s with
  | c :: d :: r =>
    if isSlash true c && isSlash true d then afterFileSlashes r
    else if isSlash true c then oneSlash (d :: r)
    else noSlash
  | [c] => if isSlash true c then oneSlash [] else noSlash
  | [] => noSlash
where
  oneSlash (r : List Char) : Except Fault Url :=
    match base with
    | some b =>
      if startsWithDrive r then .ok (file "" [] r)
      else
        match segmentsOf b with
        | first :: _ => .ok (if isDrive first then file "" [first] r else file (hostOf b) [] r)
        | [] => .ok (file (hostOf b) [] r)
    | none => .ok (file "" [] r)
  noSlash : Except Fault Url :=
    match base, s with
    | none, _ => .ok (file "" [] s)
    | some b, [] => .ok { b with fragment := none }
    | some b, c :: r =>
      if c = '?' then
        let (query, fragment) := ending "file" s
        .ok { b with query, fragment }
      else if c = '#' then .ok { b with fragment := some (fragment r) }
      else if startsWithDrive s then .ok (file "" [] s)
      else .ok (withPath "file" b.authority (folder b) s)

/-! ## Whole texts -/

/-- A text without a scheme against a base that is no file and has segments. -/
def relative (base : Url) (s : List Char) : Except Fault Url :=
  match s with
  | [] => .ok { base with fragment := none }
  | c :: r =>
    if c = '?' then
      let (query, fragment) := ending base.scheme s
      .ok { base with query, fragment }
    else if c = '#' then .ok { base with fragment := some (fragment r) }
    else if isSlash true c then
      match r with
      | d :: rest =>
        if isSlash true d then
          afterSlashes base.scheme
            (if c = '/' ∧ d = '/' then rest else rest.dropWhile (isSlash true))
        else .ok (withPath base.scheme base.authority [] r)
      | [] => .ok (withPath base.scheme base.authority [] r)
    else .ok (withPath base.scheme base.authority (folder base) s)

/-- What follows the colon of a scheme that is not special. -/
def afterPlainScheme (scheme : String) (s : List Char) : Except Fault Url :=
  match s with
  | '/' :: '/' :: r => afterSlashes scheme r
  | '/' :: r => .ok (withPath scheme none [] r)
  | _ =>
    let (query, fragment) := ending scheme (s.dropWhile (!endsPath ·))
    .ok ⟨scheme, none, .rigid (encoded keepsPlain (s.takeWhile (!endsPath ·))), query, fragment⟩

/-- What follows the colon of a scheme. -/
def afterScheme (base : Option Url) (scheme : String) (s : List Char) : Except Fault Url :=
  if scheme = "file" then fileUrl (base.filter (·.scheme == "file")) s
  else if isSpecialScheme scheme then
    let slashes := (s.takeWhile (isSlash true)).length
    match base with
    | some b =>
      if slashes < 2 ∧ b.scheme = scheme then relative b s
      else afterSlashes scheme (s.dropWhile (isSlash true))
    | none => afterSlashes scheme (s.dropWhile (isSlash true))
  else afterPlainScheme scheme s

def read (base : Option Url) (text : String) : Except Fault Url :=
  let s := cleaned text.toList
  match scheme? s with
  | some (scheme, r) => afterScheme base scheme r
  | none =>
    match base with
    | none => .error .noBase
    | some b =>
      match s, b.path with
      | '#' :: f, _ => .ok { b with fragment := some (fragment f) }
      | _, .rigid _ => .error .rigidBase
      | _, .segments _ => if b.scheme = "file" then fileUrl (some b) s else relative b s

end Reader

/-- Reads a text that stands alone. -/
def parse (text : String) : Except Fault Url := Reader.read none text

/-- Reads a text that may be relative to a base. -/
def join (base : Url) (text : String) : Except Fault Url := Reader.read (some base) text

/-- The same URL with another query; a `#` in it is encoded. -/
def withQuery (u : Url) (query : String) : Url :=
  { u with query := some (Reader.queryText u.scheme query.toList) }

end IdentityApi.Url
