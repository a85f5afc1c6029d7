import IdentityApi.Json.Tree
import IdentityApi.Text.Basic
import IdentityApi.Text.Printable
import IdentityApi.Timestamp
import IdentityApi.Uuid

/-! # Codecs

How values of a type are read from trees and written as JSON. Reading takes how deep arrays and
objects may still nest, and meets the faults of a text in the order of the text: a text that is no
JSON, or JSON that is not of the type asked for.
-/
namespace IdentityApi

/-! ## Faults -/

namespace Codec

/-- What stands in a place where something else was expected. -/
inductive Found where
  | null
  | bool (b : Bool)
  | number (n : Json.Number)
  | string (s : String)
  | sequence
  | map
  deriving DecidableEq, Repr

namespace Found

def description : Found → String
  | null => "null"
  | bool b => "boolean `" ++ (if b then "true" else "false") ++ "`"
  | number (.integer n) => "integer `" ++ n.repr ++ "`"
  | number (.double x) => "floating point `" ++ .ofList (Json.Number.doubleText x) ++ "`"
  | string s => "string " ++ quote s
  | sequence => "sequence"
  | map => "map"

end Found

inductive Fault where
  | json (fault : Json.Fault)
  | wrongType (found : Found) (expected : String)
  /-- An integer beyond the bounds of the type. -/
  | outOfBounds (n : Int) (expected : String)
  | missingField (name : String)
  | duplicateField (name : String)
  | unknownVariant (name : String) (variants : List String)
  /-- An array with too few items for a record. -/
  | wrongLength (length : Nat) (record : String) (columns : Nat)
  | badUuid
  | badTimestamp (fault : Timestamp.Fault)
  deriving DecidableEq, Repr

namespace Fault

/-- The variants that would have been right. -/
def variantList : List String → String
  | [] => "there are no variants"
  | [a] => "expected `" ++ a ++ "`"
  | [a, b] => "expected `" ++ a ++ "` or `" ++ b ++ "`"
  | all => "expected one of " ++ ", ".intercalate (all.map fun a => "`" ++ a ++ "`")

def message : Fault → String
  | json fault => fault.message
  | wrongType found expected => "invalid type: " ++ found.description ++ ", expected " ++ expected
  | outOfBounds n expected => "invalid value: integer `" ++ n.repr ++ "`, expected " ++ expected
  | missingField name => "missing field `" ++ name ++ "`"
  | duplicateField name => "duplicate field `" ++ name ++ "`"
  | unknownVariant name variants => "unknown variant `" ++ name ++ "`, " ++ variantList variants
  | wrongLength length record columns =>
    "invalid length " ++ toString length ++ ", expected struct " ++ record ++ " with " ++
      toString columns ++ (if columns = 1 then " element" else " elements")
  | badUuid => "UUID parsing failed"
  | badTimestamp fault => fault.message

end Fault

end Codec

/-! ## Reading and writing -/

structure Codec (α : Type) where
  decode : (depth : Nat) → Json.Tree → Except Codec.Fault α
  encode : α → Json.Value

namespace Codec

open Json (Tree Value)

variable {α β : Type}

def liftJson (r : Except Json.Fault α) : Except Fault α := r.mapError .json

/-- The fault of a tree that is of the wrong type, unless the tree has a fault of its own. -/
def mismatch (expected : String) : Tree → Fault
  | .null => .wrongType .null expected
  | .bool b => .wrongType (.bool b) expected
  | .number (.ok n) => .wrongType (.number n) expected
  | .number (.error fault) => .json fault
  | .string (.ok s) => .wrongType (.string s) expected
  | .string (.error fault) => .json fault
  | .array _ _ => .wrongType .sequence expected
  | .object _ _ => .wrongType .map expected
  | .absent fault | .brokenString fault _ | .broken fault => .json fault

/-- Reads a text; `parse` refuses some. -/
def ofText (expected : String) (parse : String → Except Fault α) : Tree → Except Fault α
  | .string (.ok s) => parse s
  | t => .error (mismatch expected t)

def string : Codec String where
  decode _ := ofText "a string" .ok
  encode := .string

def bool : Codec Bool where
  decode _
    | .bool b => .ok b
    | t => .error (mismatch "a boolean" t)
  encode := .bool

/-- Reads an integer between bounds. -/
def ofInteger (expected : String) (low high : Int) (make : Int → α) : Tree → Except Fault α
  | .number (.ok (.integer n)) =>
    if low ≤ n ∧ n ≤ high then .ok (make n) else .error (.outOfBounds n expected)
  | t => .error (mismatch expected t)

def int64 : Codec Int64 where
  decode _ := ofInteger "i64" (-0x8000000000000000) 0x7FFFFFFFFFFFFFFF Int64.ofInt
  encode n := .ofInt n.toInt

def uint64 : Codec UInt64 where
  decode _ := ofInteger "u64" 0 0xFFFFFFFFFFFFFFFF fun n => UInt64.ofNat n.toNat
  encode n := .ofInt n.toNat

def uuid : Codec Uuid where
  decode _ := ofText "a formatted UUID string" fun s =>
    match Uuid.ofText? s with
    | some u => .ok u
    | none => .error .badUuid
  encode u := .string u.text

def timestamp : Codec Timestamp where
  decode _ := ofText "an RFC 3339 formatted date and time string" fun s =>
    (Timestamp.ofText s).mapError .badTimestamp
  encode t := .string t.text

def unit : Codec Unit where
  decode _
    | .null => .ok ()
    | t => .error (mismatch "unit" t)
  encode _ := .null

/-- Any JSON. -/
def value : Codec Value where
  decode depth t := liftJson (t.value depth)
  encode v := v

/-- A value or null. -/
def nullable (c : Codec α) : Codec (Option α) where
  decode depth
    | .null => .ok none
    | t => (c.decode depth t).map some
  encode
    | none => .null
    | some a => c.encode a

/-- Reads items from the left up to the first fault. -/
def decodeItems (c : Codec α) (depth : Nat) : List Tree → Except Fault (List α)
  | [] => .ok []
  | t :: rest => do
    let a ← c.decode depth t
    let as ← decodeItems c depth rest
    return a :: as

def list (c : Codec α) : Codec (List α) where
  decode depth
    | .array items ending =>
      match depth with
      | 0 => .error (.json .tooDeep)
      | d + 1 => do
        let as ← decodeItems c d items
        liftJson ending.strict
        return as
    | t => .error (mismatch "a sequence" t)
  encode as := .array (as.map c.encode)

/-- Reads members from the left up to the first fault. -/
def decodeMembers (c : Codec α) (depth : Nat) :
    List (Except Json.Fault String × Tree) → Except Fault (List (String × α))
  | [] => .ok []
  | (key, t) :: rest => do
    let k ← liftJson key
    let a ← c.decode depth t
    let ms ← decodeMembers c depth rest
    return (k, a) :: ms

/-- An object with any keys; the last of several members with one key counts. -/
def keyed (c : Codec α) : Codec (KeyMap α) where
  decode depth
    | .object members ending =>
      match depth with
      | 0 => .error (.json .tooDeep)
      | d + 1 => do
        let ms ← decodeMembers c d members
        liftJson ending.strict
        return KeyMap.ofPairs ms
    | t => .error (mismatch "a map" t)
  encode m := .object (m.pairs.map fun (k, a) => (k, c.encode a))

/-! ### Choices -/

/-- The choice of a name. -/
def decodeName (α : Type) [Choice α] (s : String) : Except Fault α :=
  match Choice.ofName? s with
  | some a => .ok a
  | none => .error (.unknownVariant s (Choice.names α))

/-- Reads the only member of an object: a name and null. -/
def decodeNamed (α : Type) [Choice α] (members : List (Except Json.Fault String × Tree))
    (ending : Json.ObjectEnd Tree) : Except Fault α :=
  match members with
  | [] =>
    match ending with
    | .cut => .error (.json .endInValue)
    | .notKey found => .error (mismatch "variant identifier" found)
    | .brokenKey fault _ => .error (.json fault)
    | _ => .error (.json .expectedValue)
  | (key, t) :: rest => do
    let k ← liftJson key
    let a ← decodeName α k
    unit.decode 0 t
    match rest, ending with
    | [], .closed => return a
    | [], .cut => .error (.json .endInObject)
    | _, _ => .error (.json .expectedValue)

/-- A choice is its name, or an object with its name and null. -/
def choice (α : Type) [Choice α] : Codec α where
  decode depth
    | .string (.ok s) => decodeName α s
    | .string (.error fault) => .error (.json fault)
    | .object members ending =>
      match depth with
      | 0 => .error (.json .tooDeep)
      | _ + 1 => decodeNamed α members ending
    | .absent fault | .brokenString fault _ => .error (.json fault)
    | _ => .error (.json .expectedValue)
  encode a := .string (Choice.name a)

/-- The same JSON for another type. -/
def map (c : Codec α) (f : α → β) (g : β → α) : Codec β where
  decode depth t := (c.decode depth t).map f
  encode b := c.encode (g b)

end Codec

/-! ## Members of bodies

One that is always there, and one that is there when it has a value.
-/

namespace Codec

variable {α : Type}

def field (name : String) (c : Codec α) (a : α) : Json.Members :=
  [(name, c.encode a)]

def given (name : String) (c : Codec α) : Option α → Json.Members
  | none => []
  | some a => field name c a

end Codec

end IdentityApi
