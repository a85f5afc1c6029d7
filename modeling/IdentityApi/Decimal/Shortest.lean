import IdentityApi.Decimal.Binary64

/-! # Shortest decimals

The fewest digits that read back as a given number: for a growing count of digits, the two decimals
beside the number are tried against the interval of reals that round to it. `Layout` says how the
digits are set.
-/
namespace IdentityApi

/-- `digits * 10 ^ exponent`. -/
structure Decimal where
  digits : Nat
  exponent : Int
  deriving DecidableEq, Repr

namespace Decimal

/-- The interval of reals that round to a number, over one denominator; the ends belong to it when
the significand is even. -/
structure Interval where
  low : Nat
  value : Nat
  high : Nat
  denominator : Nat
  closed : Bool

/-- The interval of a number. Below a power of two the gap is half as wide. -/
def interval (x : Binary64) : Interval :=
  let m := x.significand
  let narrow := m = Binary64.fullSignificand ∧ -1074 < x.exponent
  let low := if narrow then 4 * m - 1 else 4 * m - 2
  let closed := m % 2 = 0
  match x.exponent - 2 with
  | .ofNat k => ⟨low * Nat.pow 2 k, 4 * m * Nat.pow 2 k, (4 * m + 2) * Nat.pow 2 k, 1, closed⟩
  | .negSucc k => ⟨low, 4 * m, 4 * m + 2, Nat.pow 2 (k + 1), closed⟩

/-- Whether `n * 10 ^ e` lies in an interval. -/
def Interval.holds (i : Interval) (n : Nat) (e : Int) : Bool :=
  let (a, scale) := match e with
    | .ofNat k => (n * Nat.pow 10 k * i.denominator, 1)
    | .negSucc k => (n * i.denominator, Nat.pow 10 (k + 1))
  let low := i.low * scale
  let high := i.high * scale
  if i.closed then low ≤ a && a ≤ high else low < a && a < high

/-- The decimal floor of an interval's value in units of `10 ^ e`, with twice the remainder compared
to the unit. -/
def Interval.floor (i : Interval) (e : Int) : Nat × Ordering :=
  let (a, b) := match e with
    | .ofNat k => (i.value, i.denominator * Nat.pow 10 k)
    | .negSucc k => (i.value * Nat.pow 10 (k + 1), i.denominator)
  (a / b, compare (2 * (a % b)) b)

/-- The place of the first digit: the greatest `p` with `10 ^ p` not above the value. -/
def Interval.place (i : Interval) : Int :=
  if i.denominator ≤ i.value then (((i.value / i.denominator).repr.length : Nat) : Int) - 1
  else
    -- below one, the place is told by the ceiling of the reciprocal
    let reciprocal := (i.denominator + i.value - 1) / i.value
    Int.neg (reciprocal - 1).repr.length

/-- Tries `fuel` grids from the coarsest on. -/
def search (i : Interval) (place : Int) : Nat → Nat → Decimal
  | 0, _ => ⟨0, 0⟩
  | fuel + 1, count =>
    let e := place - count
    let (n, half) := i.floor e
    let below := i.holds n e
    let above := i.holds (n + 1) e
    if below && above then
      match half with
      | .lt => ⟨n, e⟩
      | .gt => ⟨n + 1, e⟩
      | .eq => if n % 2 = 0 then ⟨n, e⟩ else ⟨n + 1, e⟩
    else if below then ⟨n, e⟩
    else if above then ⟨n + 1, e⟩
    else search i place fuel (count + 1)

/-- The magnitude of a nonzero number in the fewest digits. -/
def shortest (x : Binary64) : Decimal :=
  let i := interval x
  search i i.place 18 0

/-- Digits without zeros at the end, and how many there were. -/
def stripZeros : Nat → Nat → Nat × Nat
  | 0, n => (n, 0)
  | fuel + 1, n =>
    if n % 10 = 0 ∧ n ≠ 0 then
      let (m, k) := stripZeros fuel (n / 10)
      (m, k + 1)
    else (n, 0)

/-- Where positional notation ends: it is used from `10 ^ least` to below `10 ^ (greatest + 1)`. -/
structure Layout where
  least : Int
  greatest : Int

/-- The digits of a decimal, set positionally or with an exponent that has a sign. A whole number
keeps one place after the point. -/
def render (layout : Layout) (d : Decimal) : List Char :=
  let (n, zeros) := stripZeros d.digits.repr.length d.digits
  let exponent := d.exponent + zeros
  let digits := n.repr.toList
  let place := exponent + digits.length - 1
  if layout.least ≤ place ∧ place ≤ layout.greatest then
    match exponent with
    | .ofNat k => digits ++ List.replicate k '0' ++ ['.', '0']
    | .negSucc k =>
      let whole := digits.length - (k + 1)
      if 0 < whole then digits.take whole ++ '.' :: digits.drop whole
      else '0' :: '.' :: List.replicate (k + 1 - digits.length) '0' ++ digits
  else
    let mantissa := match digits with
      | [] => []
      | [c] => [c]
      | c :: rest => c :: '.' :: rest
    let sign := if place < 0 then '-' else '+'
    mantissa ++ 'e' :: sign :: place.natAbs.repr.toList

end Decimal

end IdentityApi
