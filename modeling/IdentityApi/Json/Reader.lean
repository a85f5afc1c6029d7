import IdentityApi.Json.Tree

/-! # Reading JSON texts

`read` turns the octets of a text into its tree. Strings are read twice: `stringEnd` finds the
closing quote, `stringContent` finds out what the text between the quotes says.
-/
namespace IdentityApi.Json
namespace Reader

/-- An octet as the character of the same code. -/
def char (b : UInt8) : Char := .ofUInt8 b

def isBlank (b : UInt8) : Bool :=
  char b == ' ' || char b == '\t' || char b == '\n' || char b == '\r'

def skipBlanks (s : Octets) : Octets := s.dropWhile isBlank

/-! ## Words -/

/-- Reads the letters of a word after its first one. -/
def word (letters : List Char) (s : Octets) : Except Fault Octets :=
  match letters, s with
  | [], s => .ok s
  | _ :: _, [] => .error .endInValue
  | c :: cs, b :: r => if char b = c then word cs r else .error .expectedWord

/-! ## Strings -/

def hexValue (b : UInt8) : Option Nat := Hex.value? (char b)

/-- The number of four digits. -/
def hexFour (a b c d : UInt8) : Option Nat :=
  match hexValue a, hexValue b, hexValue c, hexValue d with
  | some w, some x, some y, some z => some (((w * 16 + x) * 16 + y) * 16 + z)
  | _, _, _, _ => none

/-- The escapes of one letter. -/
def simpleEscape (b : UInt8) : Option UInt8 :=
  match char b with
  | '"' | '\\' | '/' => some b
  | 'b' => some 8
  | 'f' => some 12
  | 'n' => some 10
  | 'r' => some 13
  | 't' => some 9
  | _ => none

/-- What follows the closing quote, if the quotes close. -/
def stringEnd : Octets → Except Fault Octets
  | [] => .error .endInString
  | b :: r =>
    match char b with
    | '"' => .ok r
    | '\\' =>
      match r with
      | [] => .error .endInString
      | e :: r =>
        if char e = 'u' then
          match r with
          | w :: x :: y :: z :: r =>
            if (hexFour w x y z).isSome then stringEnd r else .error .badEscape
          | _ => .error .endInString
        else if (simpleEscape e).isSome then stringEnd r
        else .error .badEscape
    | _ => if b < 0x20 then .error .controlCharacter else stringEnd r

/-- The octets that a string says. Two escapes that form a surrogate pair say one character; half a
pair says none. -/
def stringContent : Octets → Except Fault Octets
  | [] => .error .endInString
  | b :: r =>
    match char b with
    | '"' => .ok []
    | '\\' =>
      match r with
      | [] => .error .endInString
      | e :: r =>
        if char e = 'u' then
          match r with
          | w :: x :: y :: z :: r =>
            match hexFour w x y z with
            | none => .error .badEscape
            | some n =>
              if n < 0xD800 ∨ 0xDFFF < n then
                (stringContent r).map (Utf8.encodeChar (.ofNat n) ++ ·)
              else if 0xDC00 ≤ n then .error .loneSurrogate
              else
                match r with
                | [] => .error .endInString
                | b :: r =>
                  if char b ≠ '\\' then .error .cutSurrogate
                  else
                    match r with
                    | [] => .error .endInString
                    | e :: r =>
                      if char e ≠ 'u' then .error .cutSurrogate
                      else
                        match r with
                        | w :: x :: y :: z :: r =>
                          match hexFour w x y z with
                          | none => .error .badEscape
                          | some m =>
                            if m < 0xDC00 ∨ 0xDFFF < m then .error .loneSurrogate
                            else
                              let c := Char.ofNat ((n - 0xD800) * 1024 + (m - 0xDC00) + 0x10000)
                              (stringContent r).map (Utf8.encodeChar c ++ ·)
                        | _ => .error .endInString
          | _ => .error .endInString
        else
          match simpleEscape e with
          | some c => (stringContent r).map (c :: ·)
          | none => .error .badEscape
    | _ => if b < 0x20 then .error .controlCharacter else (stringContent r).map (b :: ·)

/-- The text of a string, read strictly from behind the opening quote. -/
def stringText (s : Octets) : Except Fault String :=
  match stringContent s with
  | .error fault => .error fault
  | .ok content =>
    match Utf8.decode? content with
    | none => .error .badOctets
    | some cs => .ok (.ofList cs)

/-- The fault of a string whose quotes do not close, for a strict reader. -/
def strictFault (s : Octets) (lax : Fault) : Fault :=
  match stringText s with
  | .error fault => fault
  | .ok _ => lax

/-! ## Numbers -/

def isDigit (b : UInt8) : Bool := (char b).isDigit

def digitValue (b : UInt8) : Nat := b.toNat - 48

/-- The digits at the front. -/
def digits (s : Octets) : List Nat × Octets :=
  ((s.takeWhile isDigit).map digitValue, s.dropWhile isDigit)

/-- At least one digit has to follow. -/
def someDigits (s : Octets) : Except Fault (List Nat × Octets) :=
  match digits s with
  | ([], []) => .error .endInValue
  | ([], _ :: _) => .error .badNumber
  | found => .ok found

/-- The digits before the point: a zero stands alone. -/
def wholePart (s : Octets) : Except Fault (List Nat × Octets) :=
  match someDigits s with
  | .ok (0 :: _ :: _, _) => .error .badNumber
  | found => found

def fractionPart (s : Octets) : Except Fault (Option (List Nat) × Octets) :=
  match s with
  | b :: r => if char b = '.' then (someDigits r).map fun (ds, r) => (some ds, r) else .ok (none, s)
  | [] => .ok (none, s)

def exponentPart (s : Octets) : Except Fault (Option Int × Octets) :=
  match s with
  | b :: r =>
    if char b = 'e' ∨ char b = 'E' then
      let (negative, r) := match r with
        | b :: r =>
          if char b = '-' then (true, r)
          else if char b = '+' then (false, r)
          else (false, b :: r)
        | [] => (false, [])
      (someDigits r).map fun (ds, r) =>
        let n : Nat := ds.foldl (fun n d => n * 10 + d) 0
        (some (if negative then -(n : Int) else n), r)
    else .ok (none, s)
  | [] => .ok (none, s)

/-- A literal at the front. -/
def literal (s : Octets) : Except Fault (Literal × Octets) :=
  let (negative, r) := match s with
    | b :: r => if char b = '-' then (true, r) else (false, s)
    | [] => (false, s)
  match wholePart r with
  | .error fault => .error fault
  | .ok (whole, r) =>
    match fractionPart r with
    | .error fault => .error fault
    | .ok (fraction, r) =>
      match exponentPart r with
      | .error fault => .error fault
      | .ok (exponent, r) => .ok (⟨negative, whole, fraction, exponent⟩, r)

/-! ## Trees -/

/-- Leaves that a first octet begins; `none` for the other octets. -/
def leaf? (b : UInt8) (r : Octets) : Option (Tree × Option Octets) :=
  let named (letters : List Char) (t : Tree) : Tree × Option Octets :=
    match word letters r with
    | .ok r => (t, some r)
    | .error fault => (.broken fault, none)
  match char b with
  | 'n' => some (named ['u', 'l', 'l'] .null)
  | 't' => some (named ['r', 'u', 'e'] (.bool true))
  | 'f' => some (named ['a', 'l', 's', 'e'] (.bool false))
  | '"' =>
    match stringEnd r with
    | .ok rest => some (.string (stringText r), some rest)
    | .error lax => some (.brokenString (strictFault r lax) lax, none)
  | c =>
    if c = '-' ∨ c.isDigit then
      match literal (b :: r) with
      | .error fault => some (.broken fault, none)
      | .ok (l, rest) =>
        match l.number with
        | some n => some (.number (.ok n), some rest)
        | none => some (.number (.error .numberTooLarge), some rest)
    else none

mutual

/-- The tree of the value at the front and what follows it, unless a fault ends the reading. -/
def readValue : Nat → Octets → Tree × Option Octets
  | 0, _ => (.absent .endInValue, none)
  | fuel + 1, s =>
    match skipBlanks s with
    | [] => (.absent .endInValue, none)
    | b :: r =>
      match leaf? b r with
      | some found => found
      | none =>
        if char b = '[' then
          match skipBlanks r with
          | [] => (.array [] .cut, none)
          | b :: r =>
            if char b = ']' then (.array [] .closed, some r)
            else
              let (items, ending, rest) := readItems fuel (b :: r)
              (.array items ending, rest)
        else if char b = '{' then
          match skipBlanks r with
          | [] => (.object [] .cut, none)
          | b :: r =>
            if char b = '}' then (.object [] .closed, some r)
            else if char b = '"' then
              let (members, ending, rest) := readMembers fuel r
              (.object members ending, rest)
            else (.object [] (.notKey (readValue fuel (b :: r)).1), none)
        else (.broken .expectedValue, none)

/-- Items from the first octet of one on. -/
def readItems : Nat → Octets → List Tree × ArrayEnd × Option Octets
  | 0, _ => ([], .cut, none)
  | fuel + 1, s =>
    match readValue fuel s with
    | (t, none) => ([t], .broken, none)
    | (t, some r) =>
      match skipBlanks r with
      | [] => ([t], .cut, none)
      | b :: r =>
        if char b = ']' then ([t], .closed, some r)
        else if char b = ',' then
          match skipBlanks r with
          | [] => ([t], .cutAfterComma, none)
          | b :: r =>
            if char b = ']' then ([t], .trailingComma, none)
            else
              let (items, ending, rest) := readItems fuel (b :: r)
              (t :: items, ending, rest)
        else ([t], .stray, none)

/-- Members from behind the opening quote of a key on. -/
def readMembers :
    Nat → Octets → List (Except Fault String × Tree) × ObjectEnd Tree × Option Octets
  | 0, _ => ([], .cut, none)
  | fuel + 1, s =>
    match stringEnd s with
    | .error lax => ([], .brokenKey (strictFault s lax) lax, none)
    | .ok r =>
      let key := stringText s
      match skipBlanks r with
      | [] => ([(key, .absent .endInObject)], .broken, none)
      | b :: r =>
        if char b ≠ ':' then ([(key, .absent .expectedColon)], .broken, none)
        else
          match readValue fuel r with
          | (t, none) => ([(key, t)], .broken, none)
          | (t, some r) =>
            match skipBlanks r with
            | [] => ([(key, t)], .cut, none)
            | b :: r =>
              if char b = '}' then ([(key, t)], .closed, some r)
              else if char b = ',' then
                match skipBlanks r with
                | [] => ([(key, t)], .cutAfterComma, none)
                | b :: r =>
                  if char b = '}' then ([(key, t)], .trailingComma, none)
                  else if char b = '"' then
                    let (members, ending, rest) := readMembers fuel r
                    ((key, t) :: members, ending, rest)
                  else ([(key, t)], .notKey (readValue fuel (b :: r)).1, none)
              else ([(key, t)], .stray, none)

end

end Reader

/-- Reads a whole text. Every step of the reading takes an octet or is followed by one that does, so
twice as many steps as octets are enough. -/
def read (s : Octets) : Document :=
  match Reader.readValue (2 * s.length + 1) s with
  | (t, none) => ⟨t, false⟩
  | (t, some r) => ⟨t, !(Reader.skipBlanks r).isEmpty⟩

/-- The free value of a text. -/
def Value.ofText? (s : String) : Option Value :=
  match (read (octetsOf s)).value with
  | .ok v => some v
  | .error _ => none

end IdentityApi.Json
