import IdentityApi.Text.Basic

/-! # UUIDs

Thirty-two hexadecimal digits. Four forms are read; `text`, the hyphenated lowercase form, is the
one that is written.
-/
namespace IdentityApi

structure Uuid where
  digits : List (Fin 16)
  length_eq : digits.length = 32
  deriving DecidableEq

namespace Uuid

def digit? (c : Char) : Option (Fin 16) :=
  match Hex.value? c with
  | some n => if h : n < 16 then some ⟨n, h⟩ else none
  | none => none

def digits? : List Char → Option (List (Fin 16))
  | [] => some []
  | c :: r =>
    match digit? c, digits? r with
    | some d, some ds => some (d :: ds)
    | _, _ => none

/-- The UUID of a text of digits. -/
def ofDigits? (s : List Char) : Option Uuid :=
  match digits? s with
  | some ds => if h : ds.length = 32 then some ⟨ds, h⟩ else none
  | none => none

/-- Takes the hyphens out of groups of 8, 4, 4, 4 and 12. -/
def unhyphen? (s : List Char) : Option (List Char) :=
  let take (n : Nat) (rest : List Char) := (rest.take n, rest.drop n)
  let (a, r) := take 8 s
  let (h₁, r) := take 1 r
  let (b, r) := take 4 r
  let (h₂, r) := take 1 r
  let (c, r) := take 4 r
  let (h₃, r) := take 1 r
  let (d, r) := take 4 r
  let (h₄, e) := take 1 r
  if h₁ = ['-'] ∧ h₂ = ['-'] ∧ h₃ = ['-'] ∧ h₄ = ['-'] then some (a ++ b ++ c ++ d ++ e) else none

/-- What stands before the UUID in a name of its own; letters of either case. -/
def urn : List Char := ['u', 'r', 'n', ':', 'u', 'u', 'i', 'd', ':']

/-- Digits alone, or hyphenated, and the latter also in braces or behind `urn:uuid:`. -/
def ofChars? (s : List Char) : Option Uuid :=
  if s.length = 32 then ofDigits? s
  else
    let hyphenated :=
      if s.length = 36 then some s
      else if s.length = 38 ∧ s.head? = some '{' ∧ s.getLast? = some '}' then
        some ((s.drop 1).take 36)
      else if s.length = 45 ∧ (s.take 9).map Char.toLower = urn then
        some (s.drop 9)
      else none
    (hyphenated.bind unhyphen?).bind ofDigits?

def ofText? (s : String) : Option Uuid := ofChars? s.toList

def chars (u : Uuid) : List Char :=
  let ds := u.digits.map fun d => Hex.digit d.val
  ds.take 8 ++ '-' :: (ds.drop 8).take 4 ++ '-' :: (ds.drop 12).take 4 ++
    '-' :: (ds.drop 16).take 4 ++ '-' :: ds.drop 20

/-- The hyphenated lowercase form. -/
def text (u : Uuid) : String := .ofList u.chars

end Uuid

end IdentityApi
