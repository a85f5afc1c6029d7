/-! # Finite binary64 numbers

A number is a sign and `significand * 2 ^ exponent`. `nearest` rounds a ratio of naturals to the
nearest of them, a tie to the even significand; products, quotients and readings of decimals are
roundings of exact ratios.
-/
namespace IdentityApi

/-- The significand is below `2 ^ 53`, and at least `2 ^ 52` unless the exponent is `-1074`. -/
structure Binary64 where
  negative : Bool
  significand : Nat
  exponent : Int
  deriving DecidableEq, Repr

namespace Binary64

/-- The quotient rounded to the nearest natural, a tie to the even one. -/
def roundDiv (num den : Nat) : Nat :=
  let q := num / den
  let r := num % den
  if 2 * r < den then q else if den < 2 * r then q + 1 else q + q % 2

/-- `2 ^ 52`, the least significand with all binary digits. -/
def fullSignificand : Nat := 0x10000000000000

/-- `num / den` in units of `2 ^ e`, as a ratio. -/
def scaled (num den : Nat) (e : Int) : Nat × Nat :=
  match e with
  | .ofNat k => (num, den * Nat.pow 2 k)
  | .negSucc k => (num * Nat.pow 2 (k + 1), den)

/-- The exponent at which the ratio has 53 binary digits before the point, not below the least. -/
def unitExponent (num den : Nat) : Int :=
  let guess : Int := (num.log2 : Int) - den.log2 - 52
  let (a, b) := scaled num den guess
  let e := if a < b * fullSignificand then guess - 1 else guess
  max e (-1074)

/-- The nonnegative number nearest to `num / den`, if it is finite. -/
def nearest (num den : Nat) : Option Binary64 :=
  if num = 0 then some ⟨false, 0, -1074⟩
  else
    let e := unitExponent num den
    let (a, b) := scaled num den e
    let q := roundDiv a b
    let (s, x) := if q = 2 * fullSignificand then (fullSignificand, e + 1) else (q, e)
    if 971 < x then none else some ⟨false, s, x⟩

/-- The magnitude as a ratio. -/
def ratio (x : Binary64) : Nat × Nat :=
  match x.exponent with
  | .ofNat k => (x.significand * Nat.pow 2 k, 1)
  | .negSucc k => (x.significand, Nat.pow 2 (k + 1))

def mul (x y : Binary64) : Option Binary64 :=
  let (a, b) := x.ratio
  let (c, d) := y.ratio
  nearest (a * c) (b * d)

def div (x y : Binary64) : Option Binary64 :=
  let (a, b) := x.ratio
  let (c, d) := y.ratio
  nearest (a * d) (b * c)

def withSign (negative : Bool) (x : Binary64) : Binary64 := { x with negative }

def isZero (x : Binary64) : Bool := x.significand == 0

def zero : Binary64 := ⟨false, 0, -1074⟩

/-- The number that stands for `digits * 10 ^ exponent`: `digits` is rounded first, then scaled by
the rounded power of ten, in two steps where one power does not reach. None if it is not finite. -/
def ofDecimal (digits : Nat) (exponent : Int) : Option Binary64 :=
  match nearest digits 1 with
  | none => none
  | some x =>
    match exponent with
    | .ofNat k =>
      if x.isZero then some zero
      else if k ≤ 308 then (nearest (Nat.pow 10 k) 1).bind x.mul
      else none
    | .negSucc k =>
      if k < 308 then (nearest (Nat.pow 10 (k + 1)) 1).bind x.div
      else if k < 616 then
        (nearest (Nat.pow 10 308) 1).bind fun p =>
          (x.div p).bind fun y => (nearest (Nat.pow 10 (k + 1 - 308)) 1).bind y.div
      else some zero

end Binary64

end IdentityApi
