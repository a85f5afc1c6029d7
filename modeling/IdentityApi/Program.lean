import IdentityApi.CommandLine.Reader
import IdentityApi.Dotenv
import IdentityApi.Operation

/-! # The program

One command, from the words of its line to the text it prints. Everything that needs the network is
between the two halves: the first ends with a request to send, the second goes on with what became
of it.
-/
namespace IdentityApi

open Log (Line Settings)

namespace Program

def name : String := "authentik"

def version : String := "0.1.0"

/-- What is printed when the version is asked for. -/
def versionLine : String := name ++ " " ++ version ++ "\n"

/-- The name under which the program writes its log. -/
def logName : String := "authentik-cli"

def userAgent : String := logName ++ "/" ++ version

def filterVariable : String := "RUST_LOG"

/-- What the program is started with. -/
structure Launch where
  words : List String
  environment : Environment := []
  /-- The settings file, if there is one. -/
  dotenv : Option Octets := none

/-- The environment with what the settings file adds to it. -/
def Launch.loaded (l : Launch) : Option Environment :=
  match l.dotenv with
  | some file => Dotenv.load l.environment file
  | none => some l.environment

/-- What is left to do at the end. -/
inductive Ending where
  /-- Prints the result. -/
  | output (text : String)
  /-- Prints a report of what went wrong. -/
  | report (text : String)
  deriving DecidableEq, Repr

def Ending.exitCode : Ending → Nat
  | output _ => 0
  | report _ => 1

/-- Where the program stands after everything that needs no network. -/
inductive Stage where
  /-- The words make no command, or are never read. -/
  | refused (fault : CommandLine.Fault)
  | finished (lines : List Line) (ending : Ending)
  /-- A request is to be sent. What becomes of it gives the rest of the log, and the ending. -/
  | sending (lines : List Line) (config : Config) (request : Request)
      (resume : Except NetworkFault Reply → List Line × Ending)

/-- Carries a stage to its end, or to the fault of its words. `say` writes lines of the log, `send`
finds out what becomes of a request. -/
def Stage.conclude {m : Type → Type} [Monad m] (say : List Line → m Unit)
    (send : Config → Request → m (Except NetworkFault Reply)) :
    Stage → m (Except CommandLine.Fault Ending)
  | .refused fault => return .error fault
  | .finished lines ending => do
    say lines
    return .ok ending
  | .sending lines config request resume => do
    say lines
    let (more, ending) := resume (← send config request)
    say more
    return .ok ending

def reportOf (message : String) : Ending := .report ("Error: " ++ message)

/-- Indents all lines but the first. -/
def indented (s : List Char) : List Char :=
  s.flatMap fun c => if c = '\n' then ['\n', ' ', ' ', ' ', ' '] else [c]

/-- A report with what was being done, and why that failed. -/
def reportIn (context cause : String) : Ending :=
  reportOf (context ++ "\n\nCaused by:\n    " ++ .ofList (indented cause.toList))

/-- How the log is written, and what is said about that. -/
def logSettings (e : Environment) (asked : Option Log.Format) : Settings × List Line :=
  let (format, warning) := match asked with
    | some f => (f, none)
    | none => Log.Format.ofSetting (e.get? Log.Format.settingName)
  (⟨format, Log.filterFor logName (e.get? filterVariable)⟩, warning.toList.map .notice)

/-- The configuration. A URL of the command line stands in for that of the environment. -/
def config (e : Environment) (url : Option String) : Except Config.Fault Config :=
  let lookUp (name : String) :=
    if name = Config.urlVariable then url.or (e.get? name) else e.get? name
  (Config.ofLookup lookUp).map fun c => { c with userAgent }

def connectEvent (c : Client) : Log.Event where
  level := .debug
  target := name
  message := "Authentik に接続します"
  fields := [⟨"base_url", c.base.text, false⟩]

/-- The text of a result: its JSON with sorted members. -/
def resultText {α : Type} (p : Plan α) (a : α) : String := (p.codec.encode a).sorted.pretty ++ "\n"

/-- What is left to do with the result of a call. -/
def ending {α : Type} (p : Plan α) : Except CallFault α → Ending
  | .ok a => .output (resultText p a)
  | .error fault => reportOf fault.message

/-- Goes on with what became of the request of an operation. -/
def resume (g : Settings) (o : Operation) : Except NetworkFault Reply → List Line × Ending
  | .ok r => ((r.event?.bind (g.line? o.spans)).toList, ending o.plan (o.plan.result r))
  | .error fault => ([], reportOf (CallFault.network fault).message)

/-- Makes the request of an operation, after some lines of the log. -/
def prepare (g : Settings) (lines : List Line) (config : Config) (c : Client) (o : Operation) :
    Stage :=
  match o.plan.request c with
  | .error fault => .finished lines (reportOf (CallFault.invalidRequest fault).message)
  | .ok request =>
    .sending (lines ++ (g.line? o.spans request.event).toList) config request (resume g o)

/-- Carries out what was asked for. -/
def carryOut (e : Environment) (i : CommandLine.Invocation) : Stage :=
  let (g, lines) := logSettings e i.logFormat
  match config e i.url with
  | .error fault => .finished lines (reportIn "設定の読み込みに失敗しました" fault.message)
  | .ok config =>
    match Client.ofConfig config with
    | .error fault => .finished lines (reportIn "クライアントの初期化に失敗しました" fault.message)
    | .ok c =>
      prepare g (lines ++ (g.line? [] (connectEvent c)).toList) config c i.command.operation

/-- Everything up to the network, in an environment that is loaded. -/
def startIn (e : Environment) (words : List String) : Stage :=
  match CommandLine.read words with
  | .error fault => .refused fault
  | .ok i => carryOut e i

/-- Everything up to the network. -/
def start (l : Launch) : Stage :=
  match l.loaded with
  | some e => startIn e l.words
  | none => .refused .unread

end Program

end IdentityApi
