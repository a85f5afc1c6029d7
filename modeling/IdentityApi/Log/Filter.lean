import IdentityApi.Text.CodeTable
import IdentityApi.Text.Printable

/-! # Levels, filters and forms of the log

How grave an event is, what the log lets through, and which form it has. A filter is a list of
directives. The one with the longest target that the target of an event begins with decides; where
none fits, nothing passes.
-/
namespace IdentityApi

/-! ## Levels -/

namespace Log

inductive Level where
  | error | warn | info | debug | trace
  deriving DecidableEq, Repr

namespace Level

/-- From one for the gravest to five for the most detailed. -/
def rank : Level → Nat
  | error => 1
  | warn => 2
  | info => 3
  | debug => 4
  | trace => 5

def name : Level → String
  | error => "ERROR"
  | warn => "WARN"
  | info => "INFO"
  | debug => "DEBUG"
  | trace => "TRACE"

def all : List Level := [error, warn, info, debug, trace]

end Level

/-- The most detailed level that passes; absent when none does. -/
abbrev Ceiling := Option Level

namespace Ceiling

def allows (c : Ceiling) (l : Level) : Bool :=
  match c with
  | some m => l.rank ≤ m.rank
  | none => false

def ofName? (s : String) : Option Ceiling :=
  if s = "OFF" then some none
  else (Level.all.find? (·.name == s)).map some

/-- Zero lets nothing pass. -/
def ofRank? : Nat → Option Ceiling
  | 0 => some none
  | n => (Level.all.find? (·.rank == n)).map some

/-- A level by its number or by its name in any case of letters. -/
def ofText? (s : List Char) : Option Ceiling :=
  match Integer.natural (UInt64.size - 1) s with
  | .ok n => (ofRank? n).or (ofName? (.ofList s))
  | .error _ => ofName? (.ofList (s.map Char.toUpper))

end Ceiling

end Log

/-! ## Filters -/

namespace Log

structure Directive where
  /-- The beginning of the targets it applies to; the empty text applies to all. -/
  target : List Char
  ceiling : Ceiling
  deriving DecidableEq, Repr

abbrev Filter := List Directive

namespace Directive

def applies (d : Directive) (target : List Char) : Bool := d.target.isPrefixOf target

/-- Whether a directive may begin with a character. -/
def opens (c : Char) : Bool :=
  isAlphanumeric c || c == '-' || c == ':' || c == '_'

/-- A level alone, or a target alone with all its levels. -/
def ofWord (s : List Char) : Directive :=
  match Ceiling.ofText? s with
  | some c => ⟨[], c⟩
  | none => ⟨s, some .trace⟩

/-- A target with a level; no level stands for all. -/
def ofParts? (target level : List Char) : Option Directive :=
  if level.isEmpty then some ⟨target, some .trace⟩
  else (Ceiling.ofText? level).map fun c => ⟨target, c⟩

/-- The place of the sign between target and level, as counted in the text without the blanks at its
ends, is applied to the text with them. -/
def ofText? (s : List Char) : Option Directive :=
  let t := trimBlanks s
  if t.contains '[' then none
  else
    match t with
    | [] => none
    | c :: _ =>
      if !opens c then none
      else
        match t.idxOf? '=' with
        | none => some (ofWord s)
        | some i => ofParts? (s.take i) (s.drop (i + 1))

end Directive

namespace Filter

/-- Only errors pass. -/
def errors : Filter := [⟨[], some .error⟩]

/-- Directives between commas; without any, only errors pass. -/
def ofText? (s : String) : Option Filter := do
  let f ← ((splitAt ',' s.toList).filter (!·.isEmpty)).mapM Directive.ofText?
  return if f.isEmpty then errors else f

/-- The directive that decides on a target. Of two with one target the later one counts. -/
def deciding? (f : Filter) (target : List Char) : Option Directive :=
  f.foldl
    (fun best d =>
      if !d.applies target then best
      else
        match best with
        | none => some d
        | some b => if b.target.length ≤ d.target.length then some d else some b)
    none

def allows (f : Filter) (target : String) (l : Level) : Bool :=
  match f.deciding? target.toList with
  | some d => d.ceiling.allows l
  | none => false

end Filter

end Log

/-! ## Forms -/

namespace Log

inductive Format where
  /-- An object a line. -/
  | json
  /-- Lines for readers. -/
  | pretty
  deriving DecidableEq, Repr

namespace Format

def name : Format → String
  | json => "Json"
  | pretty => "Pretty"

def settingName : String := "LOG_FORMAT"

/-- The form of a name, in any case of letters and with blanks around it. -/
def ofName? (s : String) : Option Format :=
  let word : String := .ofList ((trimBlanks s.toList).map Char.toLower)
  if word = "json" then some json
  else if word = "pretty" then some pretty
  else none

/-- What is said about a name that is not known. -/
def warning (s : String) : String :=
  "WARNING: unknown " ++ settingName ++ "=" ++ quote s ++ ", falling back to pretty"

/-- The form that the environment asks for, and the warning about it, if there is one. -/
def ofSetting : Option String → Format × Option String
  | none => (pretty, none)
  | some s =>
    match ofName? s with
    | some f => (f, none)
    | none => (pretty, some (warning s))

end Format

/-- The targets of an application of some name. -/
def targetOf (app : String) : List Char := app.toList.map fun c => if c = '-' then '_' else c

/-- Warnings of anybody, and what an application and the client tell beyond them. -/
def defaultFilterText (app : String) : String :=
  "warn," ++ .ofList (targetOf app) ++ "=info,authentik_client=info"

/-- The filter of an application: the one that is asked for, if it can be read. -/
def filterFor (app : String) (asked : Option String) : Filter :=
  ((asked.bind Filter.ofText?).or (Filter.ofText? (defaultFilterText app))).getD Filter.errors

end Log

end IdentityApi
