import IdentityApi.Log.Filter
import IdentityApi.Operation

/-! # The grammar of the command line

What the command line can ask for, all of it without effect on the service, and a tree of groups
whose leaves are commands. A leaf has options, perhaps one argument without a name, and a way to
make a command of what was given for them.
-/
namespace IdentityApi

/-! ## Commands -/

inductive Command where
  | listUsers (search : Option String) (active : Option Bool) (page pageSize : Option UInt32)
  | getUser (id : Int64)
  | me
  | listGroups (search : Option String) (page pageSize : Option UInt32)
  | listApps (search : Option String) (page pageSize : Option UInt32)
  | checkAccess (slug : String) (user : Int64)
  | listDevices (user : Option Int64)
  | listEvents (action username : Option String) (page pageSize : Option UInt32)
  | version
  | system
  deriving DecidableEq, Repr

/-- The operation that a command stands for. -/
def Command.operation : Command → Operation
  | listUsers search isActive page pageSize =>
    .user (.list { isActive, paging := { page, pageSize, search } })
  | getUser id => .user (.retrieve id)
  | me => .user .me
  | listGroups search page pageSize => .group (.list { paging := { page, pageSize, search } })
  | listApps search page pageSize =>
    .application (.list { paging := { page, pageSize, search } })
  | checkAccess slug user => .application (.checkAccess slug user)
  | listDevices user => .device (.adminAll user)
  | listEvents action username page pageSize =>
    .event (.list { action, username, paging := { page, pageSize } })
  | version => .administration .version
  | system => .administration .system

/-! ## Faults

Why the words of a command line are no command. Asking for help or for the version counts as such a
reason, for then nothing else is done.
-/

namespace CommandLine

inductive Fault where
  | unknownArgument
  /-- A value that is not among those that are possible, or no value. -/
  | invalidValue
  /-- A value that is no number, or one out of bounds. -/
  | invalidNumber
  | missingArgument
  | unknownCommand
  | missingCommand
  /-- An option given twice. -/
  | conflict
  /-- A value for an option that takes none. -/
  | strayValue
  | helpAsked
  | versionAsked
  /-- Nothing at all where there has to be a command. -/
  | nothingAsked
  /-- The words were never read, for no environment could be loaded. -/
  | unread
  deriving DecidableEq, Repr

/-- The status with which the program ends. -/
def Fault.exitCode : Fault → Nat
  | helpAsked | versionAsked => 0
  | unread => 101
  | _ => 2

/-- The name of the kind of fault. -/
def Fault.kindName : Fault → String
  | unknownArgument => "UnknownArgument"
  | invalidValue => "InvalidValue"
  | invalidNumber => "ValueValidation"
  | missingArgument => "MissingRequiredArgument"
  | unknownCommand => "InvalidSubcommand"
  | missingCommand => "MissingSubcommand"
  | conflict => "ArgumentConflict"
  | strayValue => "TooManyValues"
  | helpAsked => "DisplayHelp"
  | versionAsked => "DisplayVersion"
  | nothingAsked => "DisplayHelpOnMissingArgumentOrSubcommand"
  | unread => "Panic"

end CommandLine

/-! ## Groups and leaves -/

namespace CommandLine

/-- What a value has to be. -/
inductive Kind where
  | text | truth | format | integer | count
  deriving DecidableEq, Repr

inductive Argument where
  | text (s : String)
  | truth (b : Bool)
  | format (f : Log.Format)
  | integer (n : Int64)
  | count (n : UInt32)
  deriving DecidableEq, Repr

/-- The words of truth values are exact. -/
def readTruth (s : String) : Except Fault Argument :=
  if s = "true" then .ok (.truth true)
  else if s = "false" then .ok (.truth false)
  else .error .invalidValue

/-- The words of forms may be in any case of letters. -/
def readFormat (s : String) : Except Fault Argument :=
  let word : String := .ofList (s.toList.map Char.toLower)
  if word = "json" then .ok (.format .json)
  else if word = "pretty" then .ok (.format .pretty)
  else .error .invalidValue

def readInteger (s : String) : Except Fault Int :=
  match Integer.integer? 0x8000000000000000 0x7FFFFFFFFFFFFFFF s.toList with
  | some n => .ok n
  | none => .error .invalidNumber

def readCount (s : String) : Except Fault Argument := do
  let n ← readInteger s
  if 0 ≤ n ∧ n < 0x100000000 then return .count (.ofNat n.toNat) else throw .invalidNumber

def Kind.read (s : String) : Kind → Except Fault Argument
  | text => .ok (.text s)
  | truth => readTruth s
  | format => readFormat s
  | integer => (readInteger s).map fun n => .integer (.ofInt n)
  | count => readCount s

/-- A place for one value. -/
structure Slot where
  name : String
  kind : Kind
  deriving DecidableEq, Repr

/-- The values given at one level of the tree, under the names of their slots. -/
abbrev Arguments := List (String × Argument)

namespace Arguments

def text? (a : Arguments) (name : String) : Option String :=
  match a.lookup name with
  | some (.text s) => some s
  | _ => none

def truth? (a : Arguments) (name : String) : Option Bool :=
  match a.lookup name with
  | some (.truth b) => some b
  | _ => none

def format? (a : Arguments) (name : String) : Option Log.Format :=
  match a.lookup name with
  | some (.format f) => some f
  | _ => none

def integer? (a : Arguments) (name : String) : Option Int64 :=
  match a.lookup name with
  | some (.integer n) => some n
  | _ => none

def count? (a : Arguments) (name : String) : Option UInt32 :=
  match a.lookup name with
  | some (.count n) => some n
  | _ => none

end Arguments

structure Leaf where
  options : List Slot := []
  /-- The argument that has no name in front of it. -/
  operand : Option Slot := none
  /-- The command; absent when something is missing. -/
  make : Arguments → Option Command

inductive Node where
  | group (children : List (String × Node))
  | leaf (l : Leaf)

namespace Node

def children : Node → List (String × Node)
  | group c => c
  | leaf _ => []

def isGroup : Node → Bool
  | group _ => true
  | leaf _ => false

/-- The options that are allowed at every level. -/
def common : List Slot := [⟨"url", .text⟩, ⟨"log-format", .format⟩]

def options : Node → List Slot
  | group _ => common
  | leaf l => l.options ++ common

def operand : Node → Option Slot
  | group _ => none
  | leaf l => l.operand

/-- A level of the tree that shows help only. -/
def help : Node := group []

/-- What a word leads to. Every group that has commands also has a command for help. -/
def child? (n : Node) (word : String) : Option Node :=
  if word = "help" && !n.children.isEmpty then some help else n.children.lookup word

def search : Slot := ⟨"search", .text⟩

def user : Slot := ⟨"user", .integer⟩

def paging : List Slot := [⟨"page", .count⟩, ⟨"page-size", .count⟩]

def listUsers : Leaf where
  options := search :: ⟨"active", .truth⟩ :: paging
  make a := some (.listUsers (a.text? "search") (a.truth? "active") (a.count? "page")
    (a.count? "page-size"))

def getUser : Leaf where
  operand := some ⟨"id", .integer⟩
  make a := (a.integer? "id").map .getUser

def listGroups : Leaf where
  options := search :: paging
  make a := some (.listGroups (a.text? "search") (a.count? "page") (a.count? "page-size"))

def listApps : Leaf where
  options := search :: paging
  make a := some (.listApps (a.text? "search") (a.count? "page") (a.count? "page-size"))

def checkAccess : Leaf where
  options := [user]
  operand := some ⟨"slug", .text⟩
  make a := do return .checkAccess (← a.text? "slug") (← a.integer? "user")

def listDevices : Leaf where
  options := [user]
  make a := some (.listDevices (a.integer? "user"))

def listEvents : Leaf where
  options := ⟨"action", .text⟩ :: ⟨"username", .text⟩ :: paging
  make a := some (.listEvents (a.text? "action") (a.text? "username") (a.count? "page")
    (a.count? "page-size"))

/-- A command without anything of its own. -/
def plain (c : Command) : Leaf where
  make _ := some c

/-- All that the program can be asked for. -/
def root : Node := group [
  ("users", group [("list", leaf listUsers), ("get", leaf getUser), ("me", leaf (plain .me))]),
  ("groups", group [("list", leaf listGroups)]),
  ("apps", group [("list", leaf listApps), ("check-access", leaf checkAccess)]),
  ("authenticators", group [("admin-all", leaf listDevices)]),
  ("events", group [("list", leaf listEvents)]),
  ("admin", group [("version", leaf (plain .version)), ("system", leaf (plain .system))])]

end Node

end CommandLine

end IdentityApi
