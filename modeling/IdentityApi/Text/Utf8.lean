/-! # UTF-8

Texts as octets and back. `decode?` refuses ill-formed octets, `decodeLossy` puts U+FFFD for each
maximal ill-formed part; both read one character at a time with `takeChar`.
-/
namespace IdentityApi

/-- The content of a body, octet by octet. -/
abbrev Octets := List UInt8

namespace Utf8

/-- The octets of one character: one to four, by the size of its code point. -/
def encodeChar (c : Char) : Octets :=
  let n := c.toNat
  if n < 0x80 then [.ofNat n]
  else if n < 0x800 then [.ofNat (0xC0 + n / 64), .ofNat (0x80 + n % 64)]
  else if n < 0x10000 then
    [.ofNat (0xE0 + n / 4096), .ofNat (0x80 + n / 64 % 64), .ofNat (0x80 + n % 64)]
  else
    [.ofNat (0xF0 + n / 262144), .ofNat (0x80 + n / 4096 % 64), .ofNat (0x80 + n / 64 % 64),
      .ofNat (0x80 + n % 64)]

def encode (s : List Char) : Octets := s.flatMap encodeChar

def isTail (b : UInt8) : Bool := 0x80 ≤ b.toNat && b.toNat < 0xC0

/-- The second octets that may follow a given first one, as a half-open range. -/
def secondRange (first : Nat) : Nat × Nat :=
  if first = 0xE0 then (0xA0, 0xC0)
  else if first = 0xED then (0x80, 0xA0)
  else if first = 0xF0 then (0x90, 0xC0)
  else if first = 0xF4 then (0x80, 0x90)
  else (0x80, 0xC0)

def secondFits (first second : UInt8) : Bool :=
  (secondRange first.toNat).1 ≤ second.toNat && second.toNat < (secondRange first.toNat).2

/-- What stands at the front of some octets: a character, or an ill-formed part, with the rest. -/
inductive Head where
  | char (c : Char) (rest : Octets)
  | bad (rest : Octets)

/-- Reads the first character. An ill-formed part ends before the first octet that cannot
continue it. -/
def takeChar (first : UInt8) (rest : Octets) : Head :=
  let a := first.toNat
  if a < 0x80 then .char (Char.ofNat a) rest
  else if 0xC2 ≤ a && a < 0xE0 then
    match rest with
    | b :: r =>
      if isTail b then .char (Char.ofNat ((a - 0xC0) * 64 + (b.toNat - 0x80))) r else .bad rest
    | [] => .bad []
  else if 0xE0 ≤ a && a < 0xF0 then
    match rest with
    | b :: c :: r =>
      if secondFits first b then
        if isTail c then
          .char (Char.ofNat ((a - 0xE0) * 4096 + (b.toNat - 0x80) * 64 + (c.toNat - 0x80))) r
        else .bad (c :: r)
      else .bad rest
    | [b] => if secondFits first b then .bad [] else .bad rest
    | [] => .bad []
  else if 0xF0 ≤ a && a < 0xF5 then
    match rest with
    | b :: c :: d :: r =>
      if secondFits first b then
        if isTail c then
          if isTail d then
            .char (Char.ofNat ((a - 0xF0) * 262144 + (b.toNat - 0x80) * 4096
              + (c.toNat - 0x80) * 64 + (d.toNat - 0x80))) r
          else .bad (d :: r)
        else .bad (c :: d :: r)
      else .bad rest
    | [b, c] =>
      if secondFits first b then if isTail c then .bad [] else .bad [c] else .bad rest
    | [b] => if secondFits first b then .bad [] else .bad rest
    | [] => .bad []
  else .bad rest

/-- Reads characters while `fuel` lasts; an ill-formed part becomes `onBad`, or ends the reading. -/
def decodeWith (onBad : Option Char) : Nat → Octets → Option (List Char)
  | _, [] => some []
  | 0, _ :: _ => none
  | fuel + 1, b :: r =>
    match takeChar b r with
    | .char c rest => (decodeWith onBad fuel rest).map (c :: ·)
    | .bad rest =>
      match onBad with
      | none => none
      | some c => (decodeWith onBad fuel rest).map (c :: ·)

/-- The text that some octets encode, if they are well formed. -/
def decode? (s : Octets) : Option (List Char) := decodeWith none s.length s

/-- Every ill-formed part reads as U+FFFD. -/
def decodeLossy (s : Octets) : List Char :=
  (decodeWith (some (Char.ofNat 0xFFFD)) s.length s).getD []

end Utf8

/-- The octets of a text. -/
def octetsOf (s : String) : Octets := Utf8.encode s.toList

end IdentityApi
