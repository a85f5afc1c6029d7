import IdentityApi.Text.Basic
import IdentityApi.Url.Basic
import IdentityApi.Url.Domain

/-! # Hosts

The written form of a host. In a special scheme it is a domain or an address; in any other scheme a
text that is not an IPv6 address is kept as it is. Addresses are numbers: IPv4 in up to four parts
of any of three bases, IPv6 in eight pieces with one run of zeros left out.
-/
namespace IdentityApi

/-! ## Addresses -/

namespace Url

def digitsIn (base : Nat) (s : List Char) : Option Nat :=
  s.foldl (fun n c => n.bind fun n =>
    match Hex.value? c with
    | some d => if d < base then some (n * base + d) else none
    | none => none) (some 0)

namespace Ipv4

/-- A number: hexadecimal behind `0x`, octal behind `0`, decimal otherwise. -/
def number? (s : List Char) : Option Nat :=
  match s with
  | [] => none
  | '0' :: 'x' :: r | '0' :: 'X' :: r => digitsIn 16 r
  | '0' :: c :: r => digitsIn 8 (c :: r)
  | _ => digitsIn 10 s

/-- The parts of a host; an empty last one does not count. -/
def parts (s : List Char) : List (List Char) :=
  let ps := splitAt '.' s
  match ps.reverse with
  | [] :: first :: rest => (first :: rest).reverse
  | _ => ps

/-- A host whose last part is a number has to be an address. -/
def isMeant (s : List Char) : Bool :=
  match (parts s).getLast? with
  | none => false
  | some last => (last ≠ [] && last.all Char.isDigit) || (number? last).isSome

/-- The value of the parts: each but the last is one octet, the last fills what is left. -/
def value? : Nat → List Nat → Option Nat
  | _, [] => none
  | width, [n] => if n < Nat.pow 256 width then some n else none
  | width, n :: rest =>
    if n < 256 then (value? (width - 1) rest).map fun m => n * Nat.pow 256 (width - 1) + m else none

def address? (s : List Char) : Option Nat :=
  let ps := parts s
  if 4 < ps.length then none
  else
    match ps.mapM number? with
    | none => none
    | some ns => value? 4 ns

def text (n : Nat) : String :=
  ".".intercalate ([n / 16777216, n / 65536 % 256, n / 256 % 256, n % 256].map toString)

end Ipv4

namespace Ipv6

/-- A decimal octet without zeros in front. -/
def octet? (s : List Char) : Option Nat :=
  match s with
  | [] => none
  | '0' :: _ :: _ => none
  | _ => if s.length ≤ 3 then (digitsIn 10 s).filter (· < 256) else none

/-- The last two pieces as an IPv4 address. -/
def embedded? (s : List Char) : Option (List Nat) :=
  match (splitAt '.' s).mapM octet? with
  | some [a, b, c, d] => some [a * 256 + b, c * 256 + d]
  | _ => none

def piece? (s : List Char) : Option Nat :=
  if 1 ≤ s.length ∧ s.length ≤ 4 then digitsIn 16 s else none

/-- Pieces between colons; the last may be an IPv4 address. -/
def pieces? : List (List Char) → Option (List Nat)
  | [] => some []
  | [s] => if s.contains '.' then embedded? s else (piece? s).map ([·])
  | s :: rest => (piece? s).bind fun n => (pieces? rest).map (n :: ·)

/-- The pieces of a text, none for an empty one. -/
def side? (s : List Char) : Option (List Nat) := if s = [] then some [] else pieces? (splitAt ':' s)

/-- What stands before and behind the first `::`. -/
def splitGap : List Char → Option (List Char × List Char)
  | ':' :: ':' :: r => some ([], r)
  | c :: r => (splitGap r).map fun (a, b) => (c :: a, b)
  | [] => none

/-- The eight pieces of an address; `::` stands for one or more zeros. -/
def address? (s : List Char) : Option (List Nat) :=
  match splitGap s with
  | none => (pieces? (splitAt ':' s)).filter (·.length = 8)
  | some (before, behind) =>
    if before.contains '.' then none
    else
      match side? before, side? behind with
      | some a, some b =>
        if a.length + b.length ≤ 7 then some (a ++ List.replicate (8 - a.length - b.length) 0 ++ b)
        else none
      | _, _ => none

/-- How many zeros are at the front. -/
def zeroRun (l : List Nat) : Nat := (l.takeWhile (· == 0)).length

/-- The place and length of the first longest run of zeros. -/
def longestRun : Nat → List Nat → Nat × Nat
  | _, [] => (0, 0)
  | i, n :: rest =>
    let here := zeroRun (n :: rest)
    let (j, later) := longestRun (i + 1) rest
    if later ≤ here then (i, here) else (j, later)

def pieceText (n : Nat) : String := .ofList (Nat.toDigits 16 n)

def joined (l : List Nat) : String := ":".intercalate (l.map pieceText)

def text (pieces : List Nat) : String :=
  let (i, n) := longestRun 0 pieces
  if n < 2 then joined pieces
  else joined (pieces.take i) ++ "::" ++ joined (pieces.drop (i + n))

end Ipv6

end Url

/-! ## Written forms -/

namespace Url.Host

/-- The content of brackets, if the text is in brackets. -/
def bracketed? (s : List Char) : Option (List Char) :=
  if s.getLast? = some ']' then some (s.drop 1).dropLast else none

def ofIpv6 (s : List Char) : Except Fault String :=
  match (bracketed? s).bind Ipv6.address? with
  | some pieces => .ok ("[" ++ Ipv6.text pieces ++ "]")
  | none => .error .badIpv6

/-- A domain, or an IPv4 address when its last label is a number. -/
def ofName (s : List Char) : Except Fault String :=
  match (Utf8.decode? (Percent.decode s)).bind Domain.toAscii? with
  | none => .error .badDomain
  | some [] => .error .emptyHost
  | some name =>
    if Ipv4.isMeant name then
      match Ipv4.address? name with
      | some n => .ok (Ipv4.text n)
      | none => .error .badIpv4
    else .ok (.ofList name)

/-- Characters that a host of a scheme that is not special may not hold. -/
def isForbidden (c : Char) : Bool :=
  c.toNat == 0 || c == '\t' || c == '\n' || c == '\r' || c == ' ' || c == '#' || c == '/' ||
    c == ':' || c == '<' || c == '>' || c == '?' || c == '@' || c == '[' || c == '\\' ||
    c == ']' || c == '^' || c == '|'

def ofFree (s : List Char) : Except Fault String :=
  if s.any isForbidden then .error .badHostCharacter else .ok (encoded keepsPlain s)

def ofText (special : Bool) (s : List Char) : Except Fault String :=
  if s.head? = some '[' then ofIpv6 s
  else if special then ofName s
  else ofFree s

end Url.Host

end IdentityApi
