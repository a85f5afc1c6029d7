import IdentityApi.Decimal.Shortest
import IdentityApi.KeyMap
import IdentityApi.Text.Basic
import IdentityApi.Text.Utf8

/-! # JSON values and their text

A number without fraction and exponent is an integer while it fits 64 bits, every other one is in
binary64. A value keeps the members of its objects in a list, as they are to be written. In a free
value that was read they are sorted by key, one member a key; `sorted` brings any value into that
form. `compact` and `pretty` write a value.
-/
namespace IdentityApi

/-! ## Numbers -/

namespace Json

inductive Number where
  | integer (n : Int)
  | double (x : Binary64)
  deriving DecidableEq, Repr

namespace Number

/-- Positional from `10 ^ -5` to below `10 ^ 16`. -/
def layout : Decimal.Layout := ⟨-5, 15⟩

/-- A zero keeps its sign and one place. -/
def doubleText (x : Binary64) : List Char :=
  let digits := if x.isZero then ['0', '.', '0'] else Decimal.render layout (Decimal.shortest x)
  if x.negative then '-' :: digits else digits

def text : Number → List Char
  | integer n => n.repr.toList
  | double x => doubleText x

end Number

/-- The digits of a literal. -/
structure Literal where
  negative : Bool
  whole : List Nat
  fraction : Option (List Nat)
  exponent : Option Int
  deriving Repr

namespace Literal

/-- Digits are gathered while the number fits 64 bits; the others are left over. -/
def gather : Nat → List Nat → Nat × List Nat
  | n, [] => (n, [])
  | n, d :: rest => if n * 10 + d < UInt64.size then gather (n * 10 + d) rest else (n, d :: rest)

/-- The integer of the gathered digits, or a number that no longer is one: minus zero, or one below
the least signed 64-bit integer. -/
def whole? (negative : Bool) (n : Nat) : Number :=
  if negative then
    if 0 < n ∧ n ≤ 0x8000000000000000 then .integer (-n)
    else .double (((Binary64.nearest n 1).getD .zero).withSign true)
  else .integer n

/-- The number of a literal; none if it is beyond the finite ones. Digits that do not fit 64 bits
count as places before the point and as nothing behind it. -/
def number (l : Literal) : Option Number :=
  let (n, left) := gather 0 l.whole
  if left = [] ∧ l.fraction = none ∧ l.exponent = none then some (whole? l.negative n)
  else
    let fraction := l.fraction.getD []
    let (m, dropped) := gather n fraction
    let places : Int := (left.length : Int) - (fraction.length - dropped.length : Nat)
    (Binary64.ofDecimal m (places + l.exponent.getD 0)).map fun x => .double (x.withSign l.negative)

end Literal

end Json

/-! ## Values -/

namespace Json

inductive Value where
  | null
  | bool (b : Bool)
  | number (n : Number)
  | string (s : String)
  | array (items : List Value)
  | object (members : List (String × Value))
  deriving Repr

/-- The members of an object, as they are written. -/
abbrev Members := List (String × Value)

namespace Value

def ofString (s : String) : Value := .string s

def ofInt (n : Int) : Value := .number (.integer n)

/-- The member of a key, in an object. -/
def get? (key : String) : Value → Option Value
  | object members => members.lookup key
  | _ => none

mutual

/-- The same value with the members of all its objects sorted. -/
def sorted : Value → Value
  | null => null
  | bool b => bool b
  | number n => number n
  | string s => string s
  | array items => array (sortedItems items)
  | object members => object (KeyMap.ofPairs (sortedMembers members)).pairs
termination_by structural v => v

def sortedItems : List Value → List Value
  | [] => []
  | v :: rest => v.sorted :: sortedItems rest
termination_by structural l => l

def sortedMembers : Members → Members
  | [] => []
  | (k, v) :: rest => (k, v.sorted) :: sortedMembers rest
termination_by structural l => l

end

/-! ### Text -/

/-- A character inside quotes. -/
def escape (c : Char) : List Char :=
  if c = '"' then ['\\', '"']
  else if c = '\\' then ['\\', '\\']
  else if c = '\n' then ['\\', 'n']
  else if c = '\r' then ['\\', 'r']
  else if c = '\t' then ['\\', 't']
  else if c.toNat = 8 then ['\\', 'b']
  else if c.toNat = 12 then ['\\', 'f']
  else if c.toNat < 32 then
    ['\\', 'u', '0', '0', Hex.digit (c.toNat / 16), Hex.digit (c.toNat % 16)]
  else [c]

def stringText (s : String) : List Char := '"' :: s.toList.flatMap escape ++ ['"']

mutual

/-- The text without blanks. -/
def compactChars : Value → List Char
  | null => ['n', 'u', 'l', 'l']
  | bool true => ['t', 'r', 'u', 'e']
  | bool false => ['f', 'a', 'l', 's', 'e']
  | number n => n.text
  | string s => stringText s
  | array items => '[' :: compactItems items
  | object members => '{' :: compactMembers members
termination_by structural v => v

/-- The items up to and with the closing bracket. -/
def compactItems : List Value → List Char
  | [] => [']']
  | v :: rest =>
    v.compactChars ++ match rest with
      | [] => [']']
      | _ :: _ => ',' :: compactItems rest
termination_by structural l => l

/-- The members up to and with the closing brace. -/
def compactMembers : Members → List Char
  | [] => ['}']
  | (k, v) :: rest =>
    stringText k ++ ':' :: v.compactChars ++ match rest with
      | [] => ['}']
      | _ :: _ => ',' :: compactMembers rest
termination_by structural l => l

end

def compact (v : Value) : String := .ofList v.compactChars

/-- A new line at a depth, two blanks a level. -/
def newLine (depth : Nat) : List Char := '\n' :: List.replicate (2 * depth) ' '

mutual

/-- The text with an item or member a line, at a given depth. -/
def prettyChars (depth : Nat) : Value → List Char
  | null => ['n', 'u', 'l', 'l']
  | bool true => ['t', 'r', 'u', 'e']
  | bool false => ['f', 'a', 'l', 's', 'e']
  | number n => n.text
  | string s => stringText s
  | array [] => ['[', ']']
  | array (v :: rest) => '[' :: prettyItems (depth + 1) (v :: rest) ++ newLine depth ++ [']']
  | object [] => ['{', '}']
  | object (m :: rest) => '{' :: prettyMembers (depth + 1) (m :: rest) ++ newLine depth ++ ['}']
termination_by structural v => v

def prettyItems (depth : Nat) : List Value → List Char
  | [] => []
  | v :: rest =>
    newLine depth ++ v.prettyChars depth ++ match rest with
      | [] => []
      | _ :: _ => ',' :: prettyItems depth rest
termination_by structural l => l

def prettyMembers (depth : Nat) : Members → List Char
  | [] => []
  | (k, v) :: rest =>
    newLine depth ++ stringText k ++ ':' :: ' ' :: v.prettyChars depth ++ match rest with
      | [] => []
      | _ :: _ => ',' :: prettyMembers depth rest
termination_by structural l => l

end

def pretty (v : Value) : String := .ofList (v.prettyChars 0)

end Value

end Json

end IdentityApi
