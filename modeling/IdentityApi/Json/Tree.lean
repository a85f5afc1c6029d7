import IdentityApi.Json.Value

/-! # Trees of JSON texts

A text is read once, as far as it goes, into a tree that keeps its faults in their places. What a
fault means depends on how the place is read: `value` reads a free value strictly, `skip` passes
over a part that nobody asks for and is laxer about strings, numbers and depth.
-/
namespace IdentityApi

/-! ## Faults -/

namespace Json

inductive Fault where
  | endInValue
  | endInString
  | endInArray
  | endInObject
  | expectedColon
  | expectedCommaOrBracket
  | expectedCommaOrBrace
  | expectedWord
  | expectedValue
  | keyNotString
  | trailingComma
  | trailingText
  | badNumber
  | numberTooLarge
  | badEscape
  | controlCharacter
  | loneSurrogate
  | cutSurrogate
  | badOctets
  | tooDeep
  deriving DecidableEq, Repr

def Fault.message : Fault → String
  | endInValue => "EOF while parsing a value"
  | endInString => "EOF while parsing a string"
  | endInArray => "EOF while parsing a list"
  | endInObject => "EOF while parsing an object"
  | expectedColon => "expected `:`"
  | expectedCommaOrBracket => "expected `,` or `]`"
  | expectedCommaOrBrace => "expected `,` or `\x7d`"
  | expectedWord => "expected ident"
  | expectedValue => "expected value"
  | keyNotString => "key must be a string"
  | trailingComma => "trailing comma"
  | trailingText => "trailing characters"
  | badNumber => "invalid number"
  | numberTooLarge => "number out of range"
  | badEscape => "invalid escape"
  | controlCharacter => "control character (\\u0000-\\u001F) found while parsing a string"
  | loneSurrogate => "lone leading surrogate in hex escape"
  | cutSurrogate => "unexpected end of hex escape"
  | badOctets => "invalid unicode code point"
  | tooDeep => "recursion limit exceeded"

end Json

/-! ## Trees -/

namespace Json

/-- How the items of an array end. -/
inductive ArrayEnd where
  | closed
  /-- The text ends after an item or the opening bracket. -/
  | cut
  /-- A comma, then the closing bracket. -/
  | trailingComma
  /-- A comma, then the end of the text. -/
  | cutAfterComma
  /-- Something else than a comma or the closing bracket. -/
  | stray
  /-- The last item has a fault that nothing can be read behind. -/
  | broken
  deriving DecidableEq, Repr

/-- How the members of an object end; `key` holds what stands in the place of a key. -/
inductive ObjectEnd (α : Type) where
  | closed
  | cut
  | trailingComma
  | cutAfterComma
  | stray
  | notKey (found : α)
  /-- The quotes of a key do not close: the fault for a strict and for a lax reader. -/
  | brokenKey (strict lax : Fault)
  | broken
  deriving Repr

inductive Tree where
  | null
  | bool (b : Bool)
  | number (n : Except Fault Number)
  | string (s : Except Fault String)
  | array (items : List Tree) (ending : ArrayEnd)
  | object (members : List (Except Fault String × Tree)) (ending : ObjectEnd Tree)
  /-- No value begins here, because the text ends or a colon is missing. -/
  | absent (fault : Fault)
  /-- The quotes of a string do not close. -/
  | brokenString (strict lax : Fault)
  /-- A broken word or number, or a character that begins no value. -/
  | broken (fault : Fault)

namespace ArrayEnd

/-- What a reader of items meets after the last one. -/
def strict : ArrayEnd → Except Fault Unit
  | closed | broken => .ok ()
  | cut => .error .endInArray
  | trailingComma => .error .trailingComma
  | cutAfterComma => .error .endInValue
  | stray => .error .expectedCommaOrBracket

def lax : ArrayEnd → Except Fault Unit
  | closed | broken => .ok ()
  | cut => .error .endInArray
  | trailingComma => .error .expectedValue
  | cutAfterComma => .error .endInValue
  | stray => .error .expectedCommaOrBracket

/-- What a reader meets that wanted no further item. -/
def full : ArrayEnd → Except Fault Unit
  | closed | broken => .ok ()
  | cut => .error .endInArray
  | trailingComma => .error .trailingComma
  | cutAfterComma | stray => .error .trailingText

end ArrayEnd

namespace ObjectEnd

variable {α : Type}

def strict : ObjectEnd α → Except Fault Unit
  | closed | broken => .ok ()
  | cut => .error .endInObject
  | trailingComma => .error .trailingComma
  | cutAfterComma => .error .endInValue
  | stray => .error .expectedCommaOrBrace
  | notKey _ => .error .keyNotString
  | brokenKey fault _ => .error fault

def lax : ObjectEnd α → Except Fault Unit
  | closed | broken => .ok ()
  | cut | cutAfterComma => .error .endInObject
  | trailingComma | notKey _ => .error .keyNotString
  | stray => .error .expectedCommaOrBrace
  | brokenKey _ fault => .error fault

end ObjectEnd

namespace Tree

mutual

/-- Passes over a tree. -/
def skip : Tree → Except Fault Unit
  | array items ending => skipItems items >>= fun () => ending.lax
  | object members ending => skipMembers members >>= fun () => ending.lax
  | absent fault | broken fault | brokenString _ fault => .error fault
  | null | bool _ | number _ | string _ => .ok ()
termination_by structural t => t

def skipItems : List Tree → Except Fault Unit
  | [] => .ok ()
  | t :: rest => t.skip >>= fun () => skipItems rest
termination_by structural l => l

def skipMembers : List (Except Fault String × Tree) → Except Fault Unit
  | [] => .ok ()
  | (_, t) :: rest => t.skip >>= fun () => skipMembers rest
termination_by structural l => l

end

mutual

/-- Reads a free value; arrays and objects nest at most `depth` deep. -/
def value (depth : Nat) : Tree → Except Fault Value
  | null => .ok .null
  | bool b => .ok (.bool b)
  | number n => n.map .number
  | string s => s.map .string
  | array items ending =>
    match depth with
    | 0 => .error .tooDeep
    | d + 1 => do
      let vs ← values d items
      ending.strict
      return .array vs
  | object members ending =>
    match depth with
    | 0 => .error .tooDeep
    | d + 1 => do
      let ms ← memberValues d members
      ending.strict
      return .object (KeyMap.ofPairs ms).pairs
  | absent fault | broken fault | brokenString fault _ => .error fault
termination_by structural t => t

def values (depth : Nat) : List Tree → Except Fault (List Value)
  | [] => .ok []
  | t :: rest => do
    let v ← t.value depth
    let vs ← values depth rest
    return v :: vs
termination_by structural l => l

def memberValues (depth : Nat) :
    List (Except Fault String × Tree) → Except Fault (List (String × Value))
  | [] => .ok []
  | (key, t) :: rest => do
    let k ← key
    let v ← t.value depth
    let ms ← memberValues depth rest
    return (k, v) :: ms
termination_by structural l => l

end

mutual

/-- The tree of a value's own text. -/
def ofValue : Value → Tree
  | .null => null
  | .bool b => bool b
  | .number n => number (.ok n)
  | .string s => string (.ok s)
  | .array items => array (ofItems items) .closed
  | .object members => object (ofMembers members) .closed
termination_by structural v => v

def ofItems : List Value → List Tree
  | [] => []
  | v :: rest => ofValue v :: ofItems rest
termination_by structural l => l

def ofMembers : Members → List (Except Fault String × Tree)
  | [] => []
  | (k, v) :: rest => (.ok k, ofValue v) :: ofMembers rest
termination_by structural l => l

end

end Tree

/-- A whole text: its tree, and whether anything but blanks follows it. -/
structure Document where
  root : Tree
  trailing : Bool

/-- Arrays and objects of a text may nest this deep. -/
def maxDepth : Nat := 127

/-- The free value of a whole text. -/
def Document.value (d : Document) : Except Fault Value := do
  let v ← d.root.value maxDepth
  if d.trailing then .error .trailingText else .ok v

end Json

end IdentityApi
