import IdentityApi.Text.Basic

/-! # Timestamps

A moment in UTC to the nanosecond. `text` writes it with as many groups of three fraction digits as
it needs; `ofText` reads a date, a time and an offset from UTC, with blanks and short numbers
admitted, and moves the moment to UTC. A leap second counts on the nanoseconds of the second before
it, and is written as the second after that: sixty at the end of a minute.
-/
namespace IdentityApi

structure Date where
  year : Int
  month : Nat
  day : Nat
  deriving DecidableEq, Repr

namespace Date

def isLeapYear (year : Int) : Bool := year % 4 == 0 && (year % 100 != 0 || year % 400 == 0)

def daysInMonth (year : Int) (month : Nat) : Nat :=
  if month = 2 then if isLeapYear year then 29 else 28
  else if month = 4 ∨ month = 6 ∨ month = 9 ∨ month = 11 then 30
  else 31

/-- The years of the calendar. -/
def inRange (d : Date) : Bool := -262143 ≤ d.year && d.year ≤ 262142

def exists? (d : Date) : Bool :=
  d.inRange && 1 ≤ d.month && d.month ≤ 12 && 1 ≤ d.day && d.day ≤ daysInMonth d.year d.month

def next (d : Date) : Date :=
  if d.day < daysInMonth d.year d.month then { d with day := d.day + 1 }
  else if d.month < 12 then ⟨d.year, d.month + 1, 1⟩
  else ⟨d.year + 1, 1, 1⟩

def previous (d : Date) : Date :=
  if 1 < d.day then { d with day := d.day - 1 }
  else if 1 < d.month then ⟨d.year, d.month - 1, daysInMonth d.year (d.month - 1)⟩
  else ⟨d.year - 1, 12, 31⟩

/-- The date some days later. -/
def later : Nat → Date → Date
  | 0, d => d
  | n + 1, d => later n d.next

end Date

@[ext]
structure Timestamp where
  date : Date
  hour : Nat
  minute : Nat
  second : Nat
  /-- In a leap second a thousand million and more. -/
  nanosecond : Nat
  deriving DecidableEq, Repr

namespace Timestamp

/-- The moment some seconds after the beginning of the year 1970, leap seconds not counted. -/
def ofUnixTime (seconds nanosecond : Nat) : Timestamp where
  date := Date.later (seconds / 86400) ⟨1970, 1, 1⟩
  hour := seconds / 3600 % 24
  minute := seconds / 60 % 60
  second := seconds % 60
  nanosecond := nanosecond

/-! ## Writing -/

/-- A number with zeros in front, at least `width` digits. -/
def padded (width n : Nat) : List Char :=
  let ds := Nat.toDigits 10 n
  List.replicate (width - ds.length) '0' ++ ds

/-- Years outside 0 to 9999 carry a sign. -/
def yearText (year : Int) : List Char :=
  if year < 0 then '-' :: padded 4 year.natAbs
  else if 9999 < year then '+' :: padded 4 year.natAbs
  else padded 4 year.natAbs

/-- None, three, six or nine digits. -/
def fractionText (nanosecond : Nat) : List Char :=
  if nanosecond = 0 then []
  else if nanosecond % 1000000 = 0 then '.' :: padded 3 (nanosecond / 1000000)
  else if nanosecond % 1000 = 0 then '.' :: padded 6 (nanosecond / 1000)
  else '.' :: padded 9 nanosecond

/-- The moment as it is written: a leap second is one more second. -/
def carried (t : Timestamp) : Timestamp :=
  if t.nanosecond < 1000000000 then t
  else { t with second := t.second + 1, nanosecond := t.nanosecond - 1000000000 }

def chars (t : Timestamp) : List Char :=
  let shown := t.carried
  yearText shown.date.year ++ '-' :: padded 2 shown.date.month ++ '-' :: padded 2 shown.date.day ++
    'T' :: padded 2 shown.hour ++ ':' :: padded 2 shown.minute ++ ':' :: padded 2 shown.second ++
    fractionText shown.nanosecond ++ ['Z']

def text (t : Timestamp) : String := .ofList t.chars

/-! ## Reading -/

inductive Fault where
  | endsEarly
  | unexpected
  | outOfRange
  | impossible
  | trailing
  deriving DecidableEq, Repr

def Fault.message : Fault → String
  | endsEarly => "premature end of input"
  | unexpected => "input contains invalid characters"
  | outOfRange => "input is out of range"
  | impossible => "no possible date and time matching input"
  | trailing => "trailing input"

/-- The digits at the front, at most `most`, as a number below `2 ^ 63`. -/
def number (most : Nat) (s : List Char) : Except Fault (Nat × List Char) :=
  let digits := (s.take most).takeWhile Char.isDigit
  match digits with
  | [] => match s with
    | [] => .error .endsEarly
    | _ :: _ => .error .unexpected
  | _ :: _ =>
    let n := Nat.ofDigitChars 10 digits 0
    if n < 0x8000000000000000 then .ok (n, s.drop digits.length) else .error .outOfRange

/-- A number of two digits at most, after blanks, between two bounds. -/
def component (low high : Nat) (s : List Char) : Except Fault (Nat × List Char) :=
  match number 2 (dropBlanks s) with
  | .error fault => .error fault
  | .ok (n, r) => if low ≤ n ∧ n ≤ high then .ok (n, r) else .error .outOfRange

/-- A year of four digits at most, or a sign and any number of digits. -/
def year (s : List Char) : Except Fault (Int × List Char) :=
  let signed := match dropBlanks s with
    | '-' :: r => ((-1 : Int), number r.length r)
    | '+' :: r => (1, number r.length r)
    | r => (1, number 4 r)
  match signed with
  | (_, .error fault) => .error fault
  | (sign, .ok (n, r)) =>
    if -0x80000000 ≤ sign * n ∧ sign * n < 0x80000000 then .ok (sign * n, r) else .error .outOfRange

/-- A separator, after blanks. -/
def separator (c : Char) (s : List Char) : Except Fault (List Char) :=
  match dropBlanks s with
  | [] => .error .endsEarly
  | d :: r => if d = c then .ok r else .error .unexpected

/-- A fraction in nanoseconds: nine digits count, and the digits behind them are passed over. -/
def fraction (s : List Char) : Except Fault (Nat × List Char) :=
  match s with
  | '.' :: r =>
    match number 9 r with
    | .error fault => .error fault
    | .ok (n, rest) =>
      .ok (n * Nat.pow 10 (9 - (r.length - rest.length)), rest.dropWhile Char.isDigit)
  | _ => .ok (0, s)

/-- Two digits at the front of an offset. -/
def twoDigits (s : List Char) : Except Fault (Nat × List Char) :=
  match s with
  | [] => .error .endsEarly
  | [c] => if c.toNat < 128 then .error .endsEarly else .error .unexpected
  | a :: b :: r =>
    if a.isDigit ∧ b.isDigit then .ok (Nat.ofDigitChars 10 [a, b] 0, r) else .error .unexpected

/-- The minutes that local time is ahead of UTC. -/
def offset (s : List Char) : Except Fault (Int × List Char) :=
  let s := dropBlanks s
  match s with
  | 'Z' :: r | 'z' :: r => .ok (0, r)
  | _ =>
    if (s.take 3).map Char.toUpper = ['U', 'T', 'C'] then .ok (0, s.drop 3)
    else
      let sign : Except Fault (Int × List Char) := match s with
        | [] => .error .endsEarly
        | c :: r =>
          if c = '+' then .ok (1, r)
          else if c = '-' ∨ c = '\u2212' then .ok (-1, r)
          else .error .unexpected
      match sign with
      | .error fault => .error fault
      | .ok (sign, r) =>
        match twoDigits r with
        | .error fault => .error fault
        | .ok (hours, r) =>
          match twoDigits (r.dropWhile fun c => c == ':' || isBlank c) with
          | .error fault => .error fault
          | .ok (minutes, r) =>
            if minutes < 60 then .ok (sign * (hours * 60 + minutes : Nat), r)
            else .error .outOfRange

/-- A local date and time, and its offset. -/
structure Local where
  date : Date
  hour : Nat
  minute : Nat
  second : Nat
  nanosecond : Nat
  offset : Int

/-- Reads a date, a letter or blank, a time and an offset. -/
def readLocal (s : List Char) : Except Fault (Local × List Char) := do
  let (y, s) ← year s
  let s ← separator '-' s
  let (month, s) ← component 1 12 s
  let s ← separator '-' s
  let (day, s) ← component 1 31 s
  let s ← match s with
    | 'T' :: r | 't' :: r | ' ' :: r => .ok r
    | [] => .error .endsEarly
    | _ :: _ => .error .unexpected
  let (hour, s) ← component 0 23 s
  let s ← separator ':' s
  let (minute, s) ← component 0 59 s
  let s ← separator ':' s
  let (second, s) ← component 0 60 s
  let (nanosecond, s) ← fraction s
  let (ahead, s) ← offset s
  return (⟨⟨y, month, day⟩, hour, minute, second, nanosecond, ahead⟩, s)

/-- The moment that a clock shows; second sixty is a leap second behind second fifty-nine. -/
def ofClock (date : Date) (hour minute second nanosecond : Nat) : Timestamp :=
  if second = 60 then ⟨date, hour, minute, 59, nanosecond + 1000000000⟩
  else ⟨date, hour, minute, second, nanosecond⟩

/-- The same moment in UTC. An offset of a day or more is none. -/
def Local.toUtc (l : Local) : Except Fault Timestamp :=
  if ¬ l.date.exists? then .error .outOfRange
  else if ¬ (-1440 < l.offset ∧ l.offset < 1440) then .error .outOfRange
  else
    let minutes : Int := (l.hour * 60 + l.minute : Nat) - l.offset
    let date := if minutes < 0 then l.date.previous
      else if 1440 ≤ minutes then l.date.next else l.date
    let m := (minutes % 1440).toNat
    if date.inRange then .ok (ofClock date (m / 60) (m % 60) l.second l.nanosecond)
    else .error .impossible

/-- Reads a whole text; blanks may follow. -/
def ofChars (s : List Char) : Except Fault Timestamp :=
  match readLocal s with
  | .error fault => .error fault
  | .ok (l, rest) => if dropBlanks rest = [] then l.toUtc else .error .trailing

def ofText (s : String) : Except Fault Timestamp := ofChars s.toList

end Timestamp

end IdentityApi
