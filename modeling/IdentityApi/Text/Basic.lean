/-! # Texts

Blanks, cuts, digits and numbers, and choices among named values.
-/
namespace IdentityApi

/-! ## Blank characters -/

def isBlank (c : Char) : Bool :=
  let n := c.toNat
  (0x9 ≤ n && n ≤ 0xD) || n == 0x20 || n == 0x85 || n == 0xA0 || n == 0x1680 ||
    (0x2000 ≤ n && n ≤ 0x200A) || n == 0x2028 || n == 0x2029 || n == 0x202F || n == 0x205F ||
    n == 0x3000

def dropBlanks (s : List Char) : List Char := s.dropWhile isBlank

def trimBlanks (s : List Char) : List Char := (dropBlanks (dropBlanks s).reverse).reverse

/-! ## Cutting texts -/

def splitAt (c : Char) : List Char → List (List Char)
  | [] => [[]]
  | d :: r =>
    match splitAt c r with
    | [] => [[d]]
    | s :: rest => if d = c then [] :: s :: rest else (d :: s) :: rest

/-! ## Hexadecimal digits -/

namespace Hex

/-- The lowercase digit of a number below sixteen. -/
def digit (n : Nat) : Char := Nat.digitChar n

/-- The uppercase digit of a number below sixteen. -/
def upperDigit (n : Nat) : Char := (Nat.digitChar n).toUpper

/-- The number that a digit of either case stands for. -/
def value? (c : Char) : Option Nat :=
  let n := c.toNat
  if 48 ≤ n ∧ n < 58 then some (n - 48)
  else if 97 ≤ n ∧ n < 103 then some (n - 87)
  else if 65 ≤ n ∧ n < 71 then some (n - 55)
  else none

/-- Octets as lowercase digits. -/
def ofOctets (s : List UInt8) : List Char :=
  s.flatMap fun b => [digit (b.toNat / 16), digit (b.toNat % 16)]

/-- The octets that pairs of digits stand for. -/
def toOctets? : List Char → Option (List UInt8)
  | [] => some []
  | [_] => none
  | a :: b :: r =>
    match value? a, value? b, toOctets? r with
    | some x, some y, some s => some (.ofNat (x * 16 + y) :: s)
    | _, _, _ => none

theorem value?_digit : ∀ n < 16, value? (digit n) = some n := by decide

theorem value?_upperDigit : ∀ n < 16, value? (upperDigit n) = some n := by decide

end Hex

/-! ## Integers in texts

Decimal digits behind an optional sign, read from the left. `natural` stops at the first fault and
says which; `integer?` reads a signed number between bounds.
-/

namespace Integer

inductive Fault where
  | empty
  | badDigit
  | tooLarge
  deriving DecidableEq, Repr

def Fault.message : Fault → String
  | empty => "cannot parse integer from empty string"
  | badDigit => "invalid digit found in string"
  | tooLarge => "number too large to fit in target type"

/-- Adds digits to a number that has to stay at most `high`. -/
def digits (high : Nat) : Nat → List Char → Except Fault Nat
  | n, [] => .ok n
  | n, c :: r =>
    if !c.isDigit then .error .badDigit
    else
      let m := n * 10 + (c.toNat - 48)
      if high < m then .error .tooLarge else digits high m r

/-- A number up to `high`; a plus may stand in front. -/
def natural (high : Nat) (s : List Char) : Except Fault Nat :=
  match s with
  | [] => .error .empty
  | ['+'] => .error .badDigit
  | '+' :: r => digits high 0 r
  | _ => digits high 0 s

/-- A number from `-low` up to `high`. -/
def integer? (low high : Nat) (s : List Char) : Option Int :=
  match s with
  | '-' :: c :: r => (digits low 0 (c :: r)).toOption.map fun n => -(n : Int)
  | _ => (natural high s).toOption.map Int.ofNat

end Integer

/-! ## Named choices

A type with finitely many values, each under a name of its own.
-/

class Choice (α : Type) where
  all : List α
  name : α → String

namespace Choice

variable {α : Type} [Choice α]

/-- The value of a name; names are exact. -/
def ofName? (s : String) : Option α := (all : List α).find? fun a => name a == s

/-- The names in order. -/
def names (α : Type) [Choice α] : List String := (all : List α).map name

end Choice

end IdentityApi
