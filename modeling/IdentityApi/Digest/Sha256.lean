import IdentityApi.Text.Basic
import IdentityApi.Text.Utf8

/-! # SHA-256

The digest of octets: they are filled up to whole blocks of 64, and each block is worked into a
state of eight words in 64 rounds.
-/
namespace IdentityApi.Sha256

/-- The cube roots of the first 64 primes: 32 bits behind the point. -/
def roundWords : List UInt32 := [
  0x428a2f98, 0x71374491, 0xb5c0fbcf, 0xe9b5dba5, 0x3956c25b, 0x59f111f1, 0x923f82a4, 0xab1c5ed5,
  0xd807aa98, 0x12835b01, 0x243185be, 0x550c7dc3, 0x72be5d74, 0x80deb1fe, 0x9bdc06a7, 0xc19bf174,
  0xe49b69c1, 0xefbe4786, 0x0fc19dc6, 0x240ca1cc, 0x2de92c6f, 0x4a7484aa, 0x5cb0a9dc, 0x76f988da,
  0x983e5152, 0xa831c66d, 0xb00327c8, 0xbf597fc7, 0xc6e00bf3, 0xd5a79147, 0x06ca6351, 0x14292967,
  0x27b70a85, 0x2e1b2138, 0x4d2c6dfc, 0x53380d13, 0x650a7354, 0x766a0abb, 0x81c2c92e, 0x92722c85,
  0xa2bfe8a1, 0xa81a664b, 0xc24b8b70, 0xc76c51a3, 0xd192e819, 0xd6990624, 0xf40e3585, 0x106aa070,
  0x19a4c116, 0x1e376c08, 0x2748774c, 0x34b0bcb5, 0x391c0cb3, 0x4ed8aa4a, 0x5b9cca4f, 0x682e6ff3,
  0x748f82ee, 0x78a5636f, 0x84c87814, 0x8cc70208, 0x90befffa, 0xa4506ceb, 0xbef9a3f7, 0xc67178f2]

structure State where
  a : UInt32
  b : UInt32
  c : UInt32
  d : UInt32
  e : UInt32
  f : UInt32
  g : UInt32
  h : UInt32
  deriving DecidableEq, Repr

/-- The square roots of the first eight primes. -/
def start : State :=
  ⟨0x6a09e667, 0xbb67ae85, 0x3c6ef372, 0xa54ff53a, 0x510e527f, 0x9b05688c, 0x1f83d9ab, 0x5be0cd19⟩

namespace State

def words (s : State) : List UInt32 := [s.a, s.b, s.c, s.d, s.e, s.f, s.g, s.h]

def add (s t : State) : State :=
  ⟨s.a + t.a, s.b + t.b, s.c + t.c, s.d + t.d, s.e + t.e, s.f + t.f, s.g + t.g, s.h + t.h⟩

end State

/-- Turns a word to the right by 1 to 31 bits. -/
def turn (w n : UInt32) : UInt32 := (w >>> n) ||| (w <<< (32 - n))

/-- One word of the schedule from four earlier ones. -/
def nextWord (w₁₆ w₁₅ w₇ w₂ : UInt32) : UInt32 :=
  let low := turn w₁₅ 7 ^^^ turn w₁₅ 18 ^^^ (w₁₅ >>> 3)
  let high := turn w₂ 17 ^^^ turn w₂ 19 ^^^ (w₂ >>> 10)
  w₁₆ + low + w₇ + high

/-- Adds `n` words to a schedule, whose last word stands first. -/
def extend : Nat → List UInt32 → List UInt32
  | 0, ws => ws
  | n + 1, ws =>
    extend n (nextWord (ws.getD 15 0) (ws.getD 14 0) (ws.getD 6 0) (ws.getD 1 0) :: ws)

def schedule (block : List UInt32) : List UInt32 := (extend 48 block.reverse).reverse

def round (s : State) (kw : UInt32 × UInt32) : State :=
  let choice := (s.e &&& s.f) ^^^ (~~~s.e &&& s.g)
  let majority := (s.a &&& s.b) ^^^ (s.a &&& s.c) ^^^ (s.b &&& s.c)
  let t := s.h + (turn s.e 6 ^^^ turn s.e 11 ^^^ turn s.e 25) + choice + kw.1 + kw.2
  let u := (turn s.a 2 ^^^ turn s.a 13 ^^^ turn s.a 22) + majority
  ⟨t + u, s.a, s.b, s.c, s.d + t, s.e, s.f, s.g⟩

def absorb (s : State) (block : List UInt32) : State :=
  s.add ((roundWords.zip (schedule block)).foldl round s)

/-- A number in a given count of octets, the highest first. -/
def bigEndian : Nat → Nat → Octets
  | 0, _ => []
  | count + 1, n => .ofNat (n / Nat.pow 256 count) :: bigEndian count (n % Nat.pow 256 count)

/-- A one bit, zeros, and the length in bits fill up the last block. -/
def padded (s : Octets) : Octets :=
  s ++ 0x80 :: List.replicate ((119 - s.length % 64) % 64) 0 ++ bigEndian 8 (8 * s.length)

/-- Words of four octets. -/
def words : Octets → List UInt32
  | a :: b :: c :: d :: r =>
    .ofNat (((a.toNat * 256 + b.toNat) * 256 + c.toNat) * 256 + d.toNat) :: words r
  | _ => []

/-- Works blocks of sixteen words into a state, `count` at most. -/
def absorbAll : (count : Nat) → State → List UInt32 → State
  | 0, s, _ => s
  | _ + 1, s, [] => s
  | n + 1, s, ws => absorbAll n (absorb s (ws.take 16)) (ws.drop 16)

def digest (s : Octets) : Octets :=
  let ws := words (padded s)
  (absorbAll ws.length start ws).words.flatMap fun w => bigEndian 4 w.toNat

/-- The digest in hexadecimal digits. -/
def fingerprint (s : String) : String := .ofList (Hex.ofOctets (digest (octetsOf s)))

end IdentityApi.Sha256
