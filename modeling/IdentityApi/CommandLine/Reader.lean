import IdentityApi.CommandLine.Grammar

/-! # Reading a command line

The words are read from left to right while the place in the tree is kept as a stack of levels. A
value that was given is held back, and checked when the next one is met or the level is finished;
so the first fault is not always that of the leftmost word. Levels are finished from the innermost
to the outermost.
-/
namespace IdentityApi.CommandLine

/-- A slot whose value is not checked yet; without a value, an option that waits for one. -/
structure Pending where
  slot : Slot
  value : Option String
  deriving DecidableEq, Repr

/-- A level of the tree, and what was given there. -/
structure Frame where
  node : Node
  given : Arguments := []
  pending : Option Pending := none

namespace Frame

/-- Whether there is a value for a slot, checked or not. -/
def holds (f : Frame) (slot : Slot) : Bool :=
  f.given.any (·.1 == slot.name) || f.pending.any (·.slot == slot)

/-- Checks the value that was held back. -/
def settle (f : Frame) : Except Fault Frame :=
  match f.pending with
  | none => .ok f
  | some ⟨_, none⟩ => .error .invalidValue
  | some ⟨slot, some s⟩ =>
    if f.given.any (·.1 == slot.name) then .error .conflict
    else (slot.kind.read s).map fun v =>
      { f with given := f.given ++ [(slot.name, v)], pending := none }

/-- Checks what was held back, and holds back something else. -/
def hold (f : Frame) (p : Pending) : Except Fault Frame :=
  f.settle.map fun f => { f with pending := some p }

/-- The option that waits for a value. -/
def awaiting? (f : Frame) : Option Slot :=
  match f.pending with
  | some ⟨slot, none⟩ => some slot
  | _ => none

def option? (f : Frame) (name : String) : Option Slot := f.node.options.find? (·.name == name)

/-- Takes a word that is no option. -/
def operand (f : Frame) (afterDashes : Bool) (word : String) : Except Fault Frame :=
  match f.node.operand with
  | some slot => if f.holds slot then .error .unknownArgument else f.hold ⟨slot, some word⟩
  | none =>
    if f.node.isGroup && !(afterDashes && (f.node.child? word).isSome) then .error .unknownCommand
    else .error .unknownArgument

end Frame

structure State where
  frame : Frame
  /-- The levels around it, from the innermost to the outermost. -/
  outer : List Frame := []
  /-- Two dashes were met: all that follows is no option. -/
  afterDashes : Bool := false

namespace State

def start : State := { frame := { node := .root } }

def withFrame (s : State) (f : Frame) : State := { s with frame := f }

/-- Enters a level. -/
def enter (s : State) (n : Node) : State :=
  { s with frame := { node := n }, outer := s.frame :: s.outer }

/-- What an option without a value asks for. The version can be asked for in front of all commands
only. -/
def asked? (s : State) (forHelp forVersion : Bool) : Option Fault :=
  if forHelp then some .helpAsked
  else if forVersion && s.outer.isEmpty then some .versionAsked
  else none

/-- Ends everything, unless what was held back is at fault. -/
def stop (s : State) (fault : Fault) : Except Fault State :=
  s.frame.settle.bind fun _ => .error fault

/-- The name of an option, and the value behind the first sign of equality. -/
def splitOption (word : List Char) : String × Option String :=
  (.ofList (word.takeWhile (· != '=')),
    match word.dropWhile (· != '=') with
    | [] => none
    | _ :: r => some (.ofList r))

/-- Takes a word that begins with two dashes. -/
def longOption (s : State) (word : List Char) : Except Fault State :=
  let (name, value) := splitOption word
  match s.frame.option? name with
  | some slot => do
    let f ← s.frame.hold ⟨slot, value⟩
    return s.withFrame (← if value.isSome then f.settle else pure f)
  | none =>
    match s.asked? (name == "help") (name == "version") with
    | some fault => if value.isSome then .error .strayValue else s.stop fault
    | none => .error .unknownArgument

/-- Takes a word that begins with one dash. Its first letter decides. -/
def shortOption (s : State) (letter : Char) : Except Fault State :=
  match s.asked? (letter == 'h') (letter == 'V') with
  | some fault => s.stop fault
  | none => .error .unknownArgument

/-- Takes a word that is no option. -/
def operand (s : State) (word : String) : Except Fault State :=
  (s.frame.operand s.afterDashes word).map s.withFrame

/-- Takes a word that leads to no other level. -/
def word (s : State) (w : String) : Except Fault State :=
  match w.toList with
  | ['-', '-'] => .ok { s with afterDashes := true }
  | '-' :: '-' :: name => s.longOption name
  | '-' :: letter :: _ => s.shortOption letter
  | _ =>
    match s.frame.awaiting? with
    | some slot => .ok (s.withFrame { s.frame with pending := some ⟨slot, some w⟩ })
    | none => s.operand w

/-- Whether a word may lead to another level. -/
def mayEnter (s : State) : Bool := !s.afterDashes && s.frame.awaiting?.isNone

/-- Why the words behind the command for help end everything: they name a level, or do not. -/
def helpOn : Node → List String → Fault
  | _, [] => .helpAsked
  | n, w :: rest =>
    match n.child? w with
    | some m => helpOn m rest
    | none => .unknownCommand

def run (s : State) : List String → Except Fault State
  | [] => .ok s
  | w :: rest =>
    match if s.mayEnter then s.frame.node.child? w else none with
    | some n => if w = "help" then .error (helpOn s.frame.node rest) else (s.enter n).run rest
    | none => (if s.afterDashes then s.operand w else s.word w).bind fun s => s.run rest

end State

/-- What was asked for on a command line. -/
structure Invocation where
  url : Option String
  logFormat : Option Log.Format
  command : Command
  deriving DecidableEq, Repr

/-- The command of the innermost level. -/
def Frame.command (f : Frame) : Except Fault Command :=
  match f.node with
  | .group _ => .error (if f.given.isEmpty then .nothingAsked else .missingCommand)
  | .leaf l =>
    match l.make f.given with
    | some c => .ok c
    | none => .error .missingArgument

/-- Finishes all levels. Of a common option the innermost value counts. -/
def State.finish (s : State) : Except Fault Invocation := do
  let f ← s.frame.settle
  let command ← f.command
  let levels := (f :: (← s.outer.mapM Frame.settle)).map Frame.given
  return ⟨levels.findSome? (·.text? "url"), levels.findSome? (·.format? "log-format"), command⟩

/-- Reads the words behind the name of the program. -/
def read (words : List String) : Except Fault Invocation := do
  (← State.start.run words).finish

end IdentityApi.CommandLine
