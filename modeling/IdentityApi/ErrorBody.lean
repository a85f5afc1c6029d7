import IdentityApi.Codec.Basic
import IdentityApi.Json.Reader

/-! # Error bodies

What the server says about an error: a text with a code, or messages for the whole request and for
single fields. Members of other names are fields.
-/
namespace IdentityApi

open Json (Value)

structure ErrorBody where
  detail : Option String
  code : Option String
  nonFieldErrors : List String
  fieldErrors : KeyMap Value

namespace ErrorBody

/-- A text; null and nothing are no text. -/
def textOf? : Option Value → Option (Option String)
  | none | some .null => some none
  | some (.string s) => some (some s)
  | some _ => none

def asText? : Value → Option String
  | .string s => some s
  | _ => none

/-- A list of texts; nothing is the empty list. -/
def textsOf? : Option Value → Option (List String)
  | none => some []
  | some (.array items) => items.mapM asText?
  | some _ => none

/-- The names that are no fields. -/
def ownNames : List String := ["detail", "code", "non_field_errors"]

/-- Reads an object, unless an own member is of the wrong type. -/
def ofMembers? (m : KeyMap Value) : Option ErrorBody := do
  let detail ← textOf? (m.get? "detail")
  let code ← textOf? (m.get? "code")
  let nonFieldErrors ← textsOf? (m.get? "non_field_errors")
  return ⟨detail, code, nonFieldErrors, m.filter fun (k, _) => !ownNames.contains k⟩

def ofValue? : Value → Option ErrorBody
  | .object members => ofMembers? (.ofPairs members)
  | _ => none

/-- Reads a body; one that is no JSON object says nothing. -/
def ofText? (s : String) : Option ErrorBody := (Value.ofText? s).bind ofValue?

/-- Own members are left out when they are empty. -/
def toJson (b : ErrorBody) : Value := .object (
  Codec.given "detail" .string b.detail ++
  Codec.given "code" .string b.code ++
  Codec.given "non_field_errors" (.list .string)
    (if b.nonFieldErrors.isEmpty then none else some b.nonFieldErrors) ++
  b.fieldErrors.pairs)

/-- A message as it is, anything else as JSON. -/
def messageText : Value → String
  | .string s => s
  | v => v.compact

def fieldText : Value → String
  | .array items => ", ".intercalate (items.map messageText)
  | v => messageText v

/-- One line for a reader: the detail, or all messages. -/
def summary (b : ErrorBody) : String :=
  match b.detail with
  | some s => s
  | none =>
    "; ".intercalate
      (b.nonFieldErrors ++ b.fieldErrors.pairs.map fun (name, v) => name ++ ": " ++ fieldText v)

end ErrorBody

end IdentityApi
