import IdentityApi.Json.Value
import IdentityApi.Log.Filter

/-! # Spans, events and lines of the log

An event becomes a line if the filter lets it through. The spans around it, which tell what is going
on, are shown as far as the filter lets them through: all of them to a reader, the innermost in an
object.
-/
namespace IdentityApi

/-! ## Spans -/

namespace Log

/-- A value under a name. A quoted one is a text in quotes on a line for readers. -/
structure Field where
  name : String
  value : String
  quoted : Bool := false
  deriving DecidableEq, Repr

structure Span where
  /-- The part of the program it belongs to. -/
  target : String
  name : String
  fields : List Field
  deriving DecidableEq, Repr

/-- A span with plain values. -/
def Span.ofValues (target name : String) (values : List (String × String)) : Span :=
  ⟨target, name, values.map fun (n, v) => ⟨n, v, false⟩⟩

end Log

/-! ## Events and lines -/

namespace Log

open Json (Value)

structure Event where
  level : Level
  target : String
  message : String
  fields : List Field := []
  deriving DecidableEq, Repr

/-- A line of the log. All but notices begin with the time. -/
inductive Line where
  | plain (text : String)
  | object (members : List (String × Value))
  | notice (text : String)

/-- Spans are of interest only to those who debug. -/
def Span.level : Level := .debug

def Field.text (f : Field) : String :=
  f.name ++ "=" ++ if f.quoted then quote f.value else f.value

def Field.member (f : Field) : String × Value := (f.name, .string f.value)

/-- For a reader. -/
def Span.text (s : Span) : String :=
  if s.fields.isEmpty then s.name
  else s.name ++ "\x7b" ++ " ".intercalate (s.fields.map Field.text) ++ "\x7d"

def Span.toJson (s : Span) : Value :=
  .object (s.fields.map Field.member ++ [("name", .string s.name)])

namespace Event

/-- The line for a reader, with spans from the outermost to the innermost. -/
def text (e : Event) (spans : List Span) : String :=
  let around := if spans.isEmpty then "" else ":".intercalate (spans.map Span.text) ++ ": "
  " ".intercalate ((e.level.name ++ " " ++ around ++ e.target ++ ": " ++ e.message) ::
    e.fields.map Field.text)

def members (e : Event) (spans : List Span) : List (String × Value) :=
  [("level", Value.string e.level.name), ("message", .string e.message)] ++
    e.fields.map Field.member ++ [("target", .string e.target)] ++
    (spans.getLast?.map fun s => ("span", s.toJson)).toList

end Event

/-- How the log is written. -/
structure Settings where
  format : Format
  filter : Filter

/-- The line of an event inside some spans, from the outermost to the innermost. -/
def Settings.line? (g : Settings) (spans : List Span) (e : Event) : Option Line :=
  if g.filter.allows e.target e.level then
    let shown := spans.filter fun s => g.filter.allows s.target Span.level
    some (match g.format with
      | .json => .object (e.members shown)
      | .pretty => .plain (e.text shown))
  else none

end Log

end IdentityApi
