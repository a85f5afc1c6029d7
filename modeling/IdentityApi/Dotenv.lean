import IdentityApi.Text.CodeTable
import IdentityApi.Text.Utf8

/-! # Environments and settings files

An environment has variables and their values. The assignments of a settings file go into it one
after the other, as far as variables have no value yet. Loading ends without a word at the first
line that cannot be read; it ends with no environment at all at a value that no variable can hold.
-/
namespace IdentityApi

/-! ## Environments -/

abbrev Environment := List (String × String)

namespace Environment

def get? (e : Environment) (name : String) : Option String := e.lookup name

/-- Variables hold every character but the one of code zero. -/
def isHeld (value : String) : Bool := value.toList.all fun c => c.toNat != 0

/-- Gives a variable a value, unless it has one. No result for a value that is not held. -/
def offer? (e : Environment) (name value : String) : Option Environment :=
  if (e.get? name).isSome then some e
  else if isHeld value then some (e ++ [(name, value)])
  else none

end Environment

/-! ## Assignments

A name, a sign of equality and a value. In the value quotes group, a backslash escapes, and a dollar
sign stands in front of a name whose value is put in its place.
-/

namespace Dotenv

/-- Where reading a value stands; what is collected of a name is kept in reverse. -/
inductive Mode where
  | text
  | strong
  | escape
  /-- Behind a dollar sign. -/
  | name (reversed : List Char)
  /-- Behind a dollar sign and a brace. -/
  | bracedName (reversed : List Char)
  /-- Behind the value: nothing but a comment may follow. -/
  | done
  deriving DecidableEq, Repr

def unescape? (c : Char) : Option Char :=
  if c = 'n' then some '\n'
  else if c = '\\' ∨ c = '\'' ∨ c = '"' ∨ c = '$' ∨ c = ' ' then some c
  else none

/-- Reads a value up to its end; `weak` tells whether double quotes are open. -/
def value (lookUp : String → List Char) : (weak : Bool) → Mode → List Char → Option (List Char)
  | _, .strong, [] | _, .bracedName _, [] => none
  | weak, .name n, [] => if weak then none else some (lookUp (.ofList n.reverse))
  | weak, .text, [] | weak, .escape, [] | weak, .done, [] => if weak then none else some []
  | weak, .done, c :: r =>
    if c = ' ' ∨ c = '\t' then value lookUp weak .done r
    else if c = '#' then some []
    else none
  | weak, .escape, c :: r => do
    let d ← unescape? c
    return d :: (← value lookUp weak .text r)
  | weak, .strong, c :: r =>
    if c = '\'' then value lookUp weak .text r
    else (value lookUp weak .strong r).map (c :: ·)
  | weak, .name n, c :: r =>
    if isAlphanumeric c then value lookUp weak (.name (c :: n)) r
    else if c = '{' ∧ n = [] then value lookUp weak (.bracedName []) r
    else if c = '$' then (value lookUp weak (.name []) r).map (lookUp (.ofList n.reverse) ++ ·)
    else (value lookUp weak .text r).map (lookUp (.ofList n.reverse) ++ c :: ·)
  | weak, .bracedName n, c :: r =>
    if c = '}' then (value lookUp weak .text r).map (lookUp (.ofList n.reverse) ++ ·)
    else value lookUp weak (.bracedName (c :: n)) r
  | weak, .text, c :: r =>
    if c = '$' then value lookUp weak (.name []) r
    else if c = '\\' then value lookUp weak .escape r
    else if c = '"' then value lookUp (!weak) .text r
    else if !weak && c == '\'' then value lookUp weak .strong r
    else if !weak && (c == ' ' || c == '\t') then value lookUp weak .done r
    else (value lookUp weak .text r).map (c :: ·)

def opensKey (c : Char) : Bool := c.isAlpha || c == '_'

def continuesKey (c : Char) : Bool := c.isAlphanum || c == '_' || c == '.'

/-- The name at the beginning of a text, and the text behind it and its blanks. -/
def key? (s : List Char) : Option (String × List Char) :=
  match s with
  | c :: _ =>
    if opensKey c then
      some (.ofList (s.takeWhile continuesKey), dropBlanks (s.dropWhile continuesKey))
    else none
  | [] => none

def afterEquals? : List Char → Option (List Char)
  | '=' :: r => some r
  | _ => none

/-- The name of an assignment and the text behind the sign. The word `export` may stand in front of
the name, and may be the name. -/
def sides? (s : List Char) : Option (String × List Char) := do
  let (name, r) ← key? s
  match afterEquals? r with
  | some v => return (name, v)
  | none =>
    if name = "export" then
      let (name, r) ← key? r
      return (name, ← afterEquals? r)
    else none

/-- What a line assigns: nothing if it is blank or a comment. No result for a line that cannot be
read. -/
def assignment? (lookUp : String → List Char) (line : List Char) :
    Option (Option (String × String)) :=
  let s := trimBlanks line
  if s.isEmpty || s.head? == some '#' then some none
  else do
    let (name, r) ← sides? s
    let r := dropBlanks r
    if r.isEmpty || r.head? == some '#' then return some (name, "")
    else return some (name, .ofList (← value lookUp false .text r))

end Dotenv

/-! ## Lines

An assignment may go on over several lines, as long as a quote or an escape is open. A comment
begins with a number sign behind a blank, or at the beginning of a line.
-/

namespace Dotenv

/-- What the next character is inside of. -/
inductive Region where
  | free
  | afterBlank
  | escape
  | strong
  | strongEscape
  | weak
  | weakEscape
  deriving DecidableEq, Repr

namespace Region

/-- What opens outside of quotes. -/
def opened (c : Char) : Region :=
  if c = '\\' then escape
  else if c = '"' then weak
  else if c = '\'' then strong
  else free

def next (c : Char) : Region → Region
  | free => if isBlank c && c != '\n' && c != '\r' then afterBlank else opened c
  | afterBlank => opened c
  | escape => free
  | weak => if c = '\\' then weakEscape else if c = '"' then free else weak
  | weakEscape => weak
  | strong => if c = '\\' then strongEscape else if c = '\'' then free else strong
  | strongEscape => strong

end Region

/-- The text of a line up to a comment, and the region at its end; no region for a comment. -/
def cutComment (r : Region) : List Char → List Char × Option Region
  | [] => ([], some r)
  | c :: rest =>
    if r = .afterBlank ∧ c = '#' then ([], none)
    else
      let (text, last) := cutComment (r.next c) rest
      (c :: text, last)

/-- Takes away the end of a line. -/
def chomp (s : List Char) : List Char :=
  match s.reverse with
  | '\n' :: '\r' :: r => r.reverse
  | '\n' :: r => r.reverse
  | _ => s

/-- The lines of a file, each with its end. -/
def octetLines : Octets → List Octets
  | [] => []
  | b :: rest =>
    if b = 10 then [b] :: octetLines rest
    else
      match octetLines rest with
      | [] => [[b]]
      | l :: more => (b :: l) :: more

end Dotenv

/-! ## Loading -/

namespace Dotenv

/-- Loads lines, the first of which go on with `text`. -/
def loadLines (e : Environment) (text : List Char) (r : Region) : List Octets → Option Environment
  | [] => some e
  | l :: rest =>
    match Utf8.decode? l with
    | none => some e
    | some s =>
      if (dropBlanks (text ++ s)).head? = some '#' then loadLines e [] .free rest
      else
        let finish (line : List Char) : Option Environment :=
          match assignment? (fun name => ((e.get? name).getD "").toList) line with
          | none => some e
          | some none => loadLines e [] .free rest
          | some (some (name, v)) =>
            match e.offer? name v with
            | some e => loadLines e [] .free rest
            | none => none
        match cutComment r s with
        | (kept, none) => finish (text ++ kept)
        | (_, some .free) => finish (chomp (text ++ s))
        | (_, some r) => loadLines e (text ++ s) r rest

/-- Takes away the mark of byte order. -/
def dropMark : Octets → Octets
  | 0xEF :: 0xBB :: 0xBF :: s => s
  | s => s

/-- The environment with what a settings file adds to it. -/
def load (e : Environment) (file : Octets) : Option Environment :=
  loadLines e [] .free (octetLines (dropMark file))

end Dotenv

end IdentityApi
