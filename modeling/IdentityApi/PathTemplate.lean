import IdentityApi.Text.Percent
import IdentityApi.Text.Printable

/-! # Path templates

A template is a text with placeholders, names between braces. `scan` cuts a text into literals and
placeholders up to its end or to the first stray brace; `render` puts a percent-encoded value in
the place of each placeholder, each value exactly once.
-/
namespace IdentityApi.PathTemplate

/-- Why a path cannot be made. -/
inductive Fault where
  | strayBrace
  | unclosedBrace
  | missing (name : String)
  | repeated (name : String)
  | refused (name value : String)
  | unused (name : String)
  deriving DecidableEq, Repr

/-- The message of a fault in the template of the given text. -/
def Fault.message (template : String) : Fault → String
  | strayBrace => "対応しない `\x7d` があります: " ++ template
  | unclosedBrace => "閉じられていないプレースホルダ: " ++ template
  | missing name => "パスパラメータ `" ++ name ++ "` が指定されていません: " ++ template
  | repeated name =>
    "パスパラメータ `" ++ name ++ "` がテンプレート内で重複しています: " ++ template
  | refused name value =>
    "パスパラメータ `" ++ name ++ "` に " ++ quote value ++ " は指定できません: " ++ template
  | unused name => "パスパラメータ `" ++ name ++ "` はテンプレートに存在しません: " ++ template

/-- A scanned template: each placeholder with the literal before it, then the last literal, or the
fault that ended the scan. -/
structure Scan where
  slots : List (List Char × List Char)
  ending : Except Fault (List Char)

namespace Scan

/-- One more character at the front of the first literal. -/
def consLiteral (c : Char) (t : Scan) : Scan :=
  match t.slots with
  | [] => ⟨[], t.ending.map (c :: ·)⟩
  | (literal, name) :: rest => ⟨(c :: literal, name) :: rest, t.ending⟩

/-- One more character at the front of the first name. -/
def consName (c : Char) (t : Scan) : Scan :=
  match t.slots with
  | [] => t
  | (literal, name) :: rest => ⟨(literal, c :: name) :: rest, t.ending⟩

end Scan

mutual

/-- Scans from a place outside braces. -/
def scan : List Char → Scan
  | [] => ⟨[], .ok []⟩
  | '{' :: r => scanName r
  | '}' :: _ => ⟨[], .error .strayBrace⟩
  | c :: r => (scan r).consLiteral c

/-- Scans from a place inside braces. -/
def scanName : List Char → Scan
  | [] => ⟨[], .error .unclosedBrace⟩
  | '}' :: r =>
    let t := scan r
    ⟨([], []) :: t.slots, t.ending⟩
  | c :: r => (scanName r).consName c

end

/-- Resolving a URL would drop a segment that is empty or made of one or two dots. -/
def isRefused (value : String) : Bool := value == "" || value == "." || value == ".."

/-- Fills the placeholders from the left; `seen` holds the names already used. -/
def fill (values : List (String × String)) (ending : Except Fault (List Char)) :
    List (List Char × List Char) → List String → Except Fault (List Char × List String)
  | [], seen => ending.map (·, seen)
  | (literal, n) :: rest, seen =>
    let name := String.ofList n
    match values.lookup name with
    | none => .error (.missing name)
    | some value =>
      if name ∈ seen then .error (.repeated name)
      else if isRefused value then .error (.refused name value)
      else (fill values ending rest (name :: seen)).map fun (text, used) =>
        (literal ++ Percent.encode Percent.isUnreserved value.toList ++ text, used)

/-- The first name whose value was not used: one that no placeholder has, or a second value of the
same name. -/
def firstUnused (used : List String) : List (String × String) → Option String
  | [] => none
  | (name, _) :: rest =>
    if name ∈ used then firstUnused (used.erase name) rest else some name

/-- The path of a template. -/
def render (template : String) (values : List (String × String)) : Except Fault String :=
  let t := scan template.toList
  match fill values t.ending t.slots [] with
  | .error e => .error e
  | .ok (text, used) =>
    match firstUnused used values with
    | some name => .error (.unused name)
    | none => .ok (String.ofList text)

end IdentityApi.PathTemplate
