import IdentityApi.Text.Normal.Table

/-! # Composed form

One text may be written with composed characters or with marks behind simple ones. The composed form
takes all characters apart, puts the marks in order, and puts together what can be put together.
Hangul syllables are composed by counting.
-/
namespace IdentityApi.Normal

/-! ## Hangul -/

def leadBase : Nat := 0x1100

def vowelBase : Nat := 0x1161

def tailBase : Nat := 0x11A7

def syllableBase : Nat := 0xAC00

/-- A syllable as two or three letters. -/
def lettersOf? (n : Nat) : Option (List Nat) :=
  if syllableBase ≤ n ∧ n < syllableBase + 11172 then
    let i := n - syllableBase
    some ([leadBase + i / 588, vowelBase + i % 588 / 28] ++
      if i % 28 = 0 then [] else [tailBase + i % 28])
  else none

/-- The syllable of a letter and a vowel, or of an open syllable and a tail. -/
def syllable? (a b : Nat) : Option Nat :=
  if leadBase ≤ a ∧ a < leadBase + 19 ∧ vowelBase ≤ b ∧ b < vowelBase + 21 then
    some (syllableBase + ((a - leadBase) * 21 + (b - vowelBase)) * 28)
  else if syllableBase ≤ a ∧ a < syllableBase + 11172 ∧ (a - syllableBase) % 28 = 0 ∧
      tailBase < b ∧ b < tailBase + 28 then
    some (a + (b - tailBase))
  else none

/-! ## Taking apart -/

/-- Takes a character apart, up to a depth. -/
def parts : (depth : Nat) → Nat → List Nat
  | 0, n => [n]
  | depth + 1, n =>
    match lettersOf? n with
    | some l => l
    | none =>
      match compositions.find? n with
      | some r => r.values.flatMap (parts depth)
      | none => [n]

/-- No character is composed more often than this. -/
def maxDepth : Nat := 4

/-- Zero for a character that is no mark. -/
def classOf (n : Nat) : Nat := classes.value n

/-- Puts a mark in front of a text whose marks are in order, behind those of a lower class. -/
def insertMark (n : Nat) : List Nat → List Nat
  | [] => [n]
  | m :: rest =>
    if classOf m ≠ 0 ∧ classOf m < classOf n then m :: insertMark n rest else n :: m :: rest

/-- Puts the marks of a text in order. -/
def ordered : List Nat → List Nat
  | [] => []
  | n :: rest => if classOf n = 0 then n :: ordered rest else insertMark n (ordered rest)

/-! ## Putting together -/

def pair? (a b : Nat) : Option Nat :=
  (syllable? a b).or ((List.find? (fun r => r.values == [a, b]) compositions).map CodeRow.low)

/-- Puts together a character with what follows. `marks` are the marks behind it that stay, the last
one first. -/
def joined (first : Nat) (marks : List Nat) : List Nat → List Nat
  | [] => first :: marks.reverse
  | n :: rest =>
    let free := match marks with
      | [] => true
      | m :: _ => classOf m < classOf n
    match if free then pair? first n else none with
    | some composed => joined composed marks rest
    | none =>
      if classOf n = 0 then first :: marks.reverse ++ joined n [] rest
      else joined first (n :: marks) rest

/-- The composed form of a text. -/
def composed (s : List Char) : List Char :=
  match ordered (s.flatMap fun c => parts maxDepth c.toNat) with
  | [] => []
  | n :: rest => (joined n [] rest).map Char.ofNat

end IdentityApi.Normal
