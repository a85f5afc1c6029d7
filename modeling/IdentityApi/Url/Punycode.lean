import IdentityApi.Text.Utf8

/-! # Punycode

A label with any characters as ASCII. Basic characters stand first, then, behind a hyphen, the
others in ascending order: each as the distance from the one before it, counted over all the places
where it could stand, in digits of base 36 whose thresholds follow a bias.
-/
namespace IdentityApi.Url.Punycode

/-- Letters, then decimal digits. -/
def digit (n : Nat) : Char := if n < 26 then .ofNat (97 + n) else .ofNat (22 + n)

def digitValue? (c : Char) : Option Nat :=
  let n := c.toNat
  if 97 ≤ n ∧ n < 123 then some (n - 97)
  else if 65 ≤ n ∧ n < 91 then some (n - 65)
  else if 48 ≤ n ∧ n < 58 then some (n - 22)
  else none

/-- The first value of a digit that is no longer the last one of its number. -/
def threshold (place bias : Nat) : Nat :=
  if place ≤ bias then 1 else if bias + 26 ≤ place then 26 else place - bias

theorem one_le_threshold (place bias : Nat) : 1 ≤ threshold place bias := by
  unfold threshold
  split
  · omega
  · split <;> omega

/-- A number from its lowest digit up. -/
def digits (bias place n : Nat) : List Char :=
  if n < threshold place bias then [digit n]
  else
    let t := threshold place bias
    digit (t + (n - t) % (36 - t)) :: digits bias (place + 36) ((n - t) / (36 - t))
termination_by n
decreasing_by
  have := one_le_threshold place bias
  have := Nat.div_le_self (n - threshold place bias) (36 - threshold place bias)
  omega

/-- Divides by 35 while the quotient is above 455, one place of 36 a time. -/
def settle (place delta : Nat) : Nat :=
  if 455 < delta then settle (place + 36) (delta / 35) else place + 36 * delta / (delta + 38)
termination_by delta
decreasing_by omega

/-- The bias after a distance, with the number of characters that are placed by then. -/
def adapt (first : Bool) (delta count : Nat) : Nat :=
  let d := if first then delta / 700 else delta / 2
  settle 0 (d + d / count)

/-- What is known while a label is written or read: the distance so far, the bias, and how many
characters are placed. -/
structure State where
  delta : Nat
  bias : Nat
  count : Nat
  first : Bool

/-- Writes the places of one code point, walking over the label. -/
def place (point : Nat) : List Char → State → List Char × State
  | [], s => ([], s)
  | c :: rest, s =>
    if c.toNat < point then place point rest { s with delta := s.delta + 1 }
    else if c.toNat = point then
      let ds := digits s.bias 36 s.delta
      let s' : State := ⟨0, adapt s.first s.delta (s.count + 1), s.count + 1, false⟩
      let (more, s'') := place point rest s'
      (ds ++ more, s'')
    else place point rest s

/-- Writes the places of code points in ascending order; `next` is the least one not yet dealt
with. -/
def placeAll (label : List Char) : List Nat → Nat → State → List Char
  | [], _, _ => []
  | point :: rest, next, s =>
    let (ds, s) :=
      place point label { s with delta := s.delta + (point - next) * (s.count + 1) }
    ds ++ placeAll label rest (point + 1) { s with delta := s.delta + 1 }

def isBasic (c : Char) : Bool := c.toNat < 128

/-- Inserts a number into an ascending list without repetitions. -/
def insertPoint (n : Nat) : List Nat → List Nat
  | [] => [n]
  | m :: rest => if n < m then n :: m :: rest else if n = m then m :: rest
    else m :: insertPoint n rest

/-- The code points of a label beyond the basic ones, in ascending order. -/
def points (label : List Char) : List Nat :=
  (label.filter (!isBasic ·)).foldr (fun c l => insertPoint c.toNat l) []

/-- Labels longer than this are not encoded. -/
def maxLength : Nat := 1000

def encode? (label : List Char) : Option (List Char) :=
  if maxLength < label.length then none
  else
    let basic := label.filter isBasic
    let n := basic.length
    some (basic ++ (if basic = [] then [] else ['-']) ++
      placeAll label (points label) 128 ⟨0, 72, n, true⟩)

/-! ## Reading -/

/-- What is known inside a number that is being read: its value so far, and the weight and place of
the next digit. -/
structure Pending where
  value : Nat
  weight : Nat
  place : Nat

/-- Reads digits into a label. A number that ends says where to insert which code point. -/
def extend : List Char → (label : List Char) → (point index bias : Nat) → Pending →
    Option (List Char)
  | [], label, _, _, _, p => if p.place = 36 then some label else none
  | c :: rest, label, point, index, bias, p =>
    match digitValue? c with
    | none => none
    | some d =>
      let value := p.value + d * p.weight
      let t := threshold p.place bias
      if d < t then
        let count := label.length + 1
        let offset := index + value
        let point := point + offset / count
        if 0x10FFFF < point ∨ (0xD800 ≤ point ∧ point < 0xE000) then none
        else
          let i := offset % count
          extend rest (label.take i ++ .ofNat point :: label.drop i) point (i + 1)
            (adapt (label.all isBasic) value count) ⟨0, 1, 36⟩
      else
        let weight := p.weight * (36 - t)
        if 0x100000000 ≤ weight then none
        else extend rest label point index bias ⟨value, weight, p.place + 36⟩

/-- What stands before and behind the last hyphen. -/
def splitLast (s : List Char) : List Char × List Char :=
  let behind := (s.reverse.takeWhile (· != '-')).reverse
  if s.contains '-' then (s.take (s.length - behind.length - 1), behind) else ([], s)

def decode? (s : List Char) : Option (List Char) :=
  let (basic, behind) := splitLast s
  if !basic.all isBasic then none else extend behind basic 128 0 72 ⟨0, 1, 36⟩

end IdentityApi.Url.Punycode
