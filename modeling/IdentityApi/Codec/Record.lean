import IdentityApi.Codec.Basic

/-! # Records

A record is a row of columns, each with a name, a codec and perhaps a value to assume when the
column is missing. It is read from an object whose members come in any order, members of other
names being passed over, or from an array of the columns in their order; it is written as an object
with the columns in their order.
-/
namespace IdentityApi.Codec

open Json (Tree Value)

structure Column where
  name : String
  Carrier : Type
  codec : Codec Carrier
  /-- The value of a missing column; none if it must not be missing. -/
  default : Option Carrier

/-- The values of a row. -/
def Row : List Column → Type
  | [] => Unit
  | c :: cs => c.Carrier × Row cs

/-- The values of a row that are known so far. -/
def Slots : List Column → Type
  | [] => Unit
  | c :: cs => Option c.Carrier × Slots cs

namespace Slots

def empty : (cs : List Column) → Slots cs
  | [] => ()
  | _ :: cs => (none, empty cs)

/-- Reads a member into the slot of its name. -/
def accept (depth : Nat) (name : String) (t : Tree) :
    (cs : List Column) → Slots cs → Except Fault (Slots cs)
  | [], slots => (liftJson t.skip).map fun () => slots
  | c :: cs, (slot, rest) =>
    if c.name = name then
      match slot with
      | some _ => .error (.duplicateField name)
      | none => (c.codec.decode depth t).map fun a => (some a, rest)
    else (accept depth name t cs rest).map fun rest => (slot, rest)

/-- Reads members from the left. -/
def acceptAll (depth : Nat) (cs : List Column) :
    List (Except Json.Fault String × Tree) → Slots cs → Except Fault (Slots cs)
  | [], slots => .ok slots
  | (key, t) :: rest, slots => do
    let k ← liftJson key
    let slots ← slots.accept depth k t cs
    acceptAll depth cs rest slots

/-- The row of the slots; the first missing column without a default is a fault. -/
def toRow : (cs : List Column) → Slots cs → Except Fault (Row cs)
  | [], _ => .ok ()
  | c :: cs, (slot, rest) => do
    let a ← match slot, c.default with
      | some a, _ => .ok a
      | none, some a => .ok a
      | none, none => .error (.missingField c.name)
    let row ← toRow cs rest
    return (a, row)

end Slots

namespace Row

/-- Reads the items of an array, one a column, in order. `index` items were read before. -/
def ofItems (depth : Nat) (record : String) (width : Nat) :
    (cs : List Column) → (index : Nat) → List Tree → Json.ArrayEnd → Except Fault (Row cs)
  | [], _, [], ending => liftJson ending.full
  | [], _, _ :: _, _ => .error (.json .trailingText)
  | c :: cs, index, t :: items, ending => do
    let a ← c.codec.decode depth t
    let row ← ofItems depth record width cs (index + 1) items ending
    return (a, row)
  | c :: cs, index, [], ending => do
    liftJson ending.strict
    match c.default with
    | none => .error (.wrongLength index record width)
    | some a =>
      let row ← ofItems depth record width cs (index + 1) [] ending
      return (a, row)

def members : (cs : List Column) → Row cs → Json.Members
  | [], _ => []
  | c :: cs, (a, row) => (c.name, c.codec.encode a) :: members cs row

end Row

/-- The codec of the rows of a named record. -/
def row (record : String) (cs : List Column) : Codec (Row cs) where
  decode depth
    | .object members ending =>
      match depth with
      | 0 => .error (.json .tooDeep)
      | d + 1 => do
        let slots ← (Slots.empty cs).acceptAll d cs members
        liftJson ending.strict
        slots.toRow
    | .array items ending =>
      match depth with
      | 0 => .error (.json .tooDeep)
      | d + 1 => Row.ofItems d record cs.length cs 0 items ending
    | t => .error (mismatch ("struct " ++ record) t)
  encode r := .object (Row.members cs r)

/-! ## Records that keep every member -/

/-- Reads members from the left: those of the columns into their slots, the others as free
values. -/
def collect (depth : Nat) (cs : List Column) :
    List (Except Json.Fault String × Tree) → Slots cs →
      Except Fault (Slots cs × Json.Members)
  | [], slots => .ok (slots, [])
  | (key, t) :: rest, slots => do
    let k ← liftJson key
    if cs.any fun c => c.name == k then
      let slots ← slots.accept depth k t cs
      collect depth cs rest slots
    else
      let v ← liftJson (t.value depth)
      let (slots, others) ← collect depth cs rest slots
      return (slots, (k, v) :: others)

/-- The codec of a named record that keeps the members of other names. It has no array form. -/
def openRow (record : String) (cs : List Column) : Codec (Row cs × KeyMap Value) where
  decode depth
    | .object members ending =>
      match depth with
      | 0 => .error (.json .tooDeep)
      | d + 1 => do
        let (slots, others) ← collect d cs members (Slots.empty cs)
        liftJson ending.strict
        let r ← slots.toRow
        return (r, KeyMap.ofPairs others)
    | t => .error (mismatch ("struct " ++ record) t)
  encode := fun (r, others) => .object (Row.members cs r ++ others.pairs)

/-- A column that must be there. -/
def required {α : Type} (name : String) (codec : Codec α) : Column := ⟨name, α, codec, none⟩

/-- A column with a value to assume when it is missing. -/
def withDefault {α : Type} (name : String) (codec : Codec α) (default : α) : Column :=
  ⟨name, α, codec, some default⟩

end IdentityApi.Codec
