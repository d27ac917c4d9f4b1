import Sluice.Console.Arguments
import Sluice.Console.Report
import Sluice.Execution
import Sluice.Humanize
import Sluice.Json.Reader
import Sluice.Plan.Document
import Sluice.Registry.Builtin

/-!
# The console

What the program does with a command line: a pure function of the files and the input around it and
of a source of connections. A denied query is an answer like any other, but the program does not
succeed with it.
-/

namespace Sluice.Console

/-- What the program finds around it. `κ` is the state of connections, `σ` that of their source. -/
structure World (σ κ : Type) where
  program : Program
  /-- The configuration that the program's variable names. -/
  preset : Option String := none
  /-- The whole standard input. -/
  input : String := ""
  fileText : String → Option String
  source : Registry → Source σ κ
  initial : σ

/-- Why a command could not be done. -/
inductive Failure where
  | cannotLoad (path : String)
  | cannotRead (path : String)
  | invalidExpression
  | invalidPlan
  | refused (e : Error)
  /-- No connection; the issue is explained to users. -/
  | unconnected (explained : FriendlyFailure) (issue : ConnectionIssue)
deriving DecidableEq, Inhabited

def Failure.message : Failure → String
  | cannotLoad path => "failed to load " ++ path
  | cannotRead path => "failed to read " ++ path
  | invalidExpression => "invalid expression JSON"
  | invalidPlan => "invalid plan JSON"
  | refused e => e.message
  | unconnected explained _ => explained.message ++ " [" ++ explained.kind.name ++ "]"

inductive Reply where
  /-- A text to be shown. -/
  | shown (text : String)
  /-- The query may not run. -/
  | denied (reason : Violation)
deriving DecidableEq, Inhabited

structure Outcome where
  code : UInt8 := 0
  output : String := ""
  failure : Option Failure := none
deriving DecidableEq, Inhabited

def checked (r : Except Error α) : Except Failure α := r.mapError .refused

/-- A document, or the failure that it is none. -/
def required (failure : Failure) : Option α → Except Failure α
  | some a => .ok a
  | none => .error failure

def Command.argument? : Command → Option String
  | .drivers => none
  | .classify input _ | .translate input _ _ | .authorize input _ | .run input _ _ => some input

/-- The path of a file that an argument stands for. -/
def argumentPath? (arg : String) : Option String :=
  (Text.dropPrefix? ['@'] arg.toList).map String.ofList

def Invocation.files (i : Invocation) : List String :=
  i.config.toList ++ (i.command.argument?.bind argumentPath?).toList

namespace World

def config (w : World σ κ) : Option String → Except Failure Config
  | none => .ok {}
  | some path => (Config.ofFile (w.fileText path)).mapError fun _ => .cannotLoad path

/-- What an argument stands for: the standard input, the text of a file, or itself. -/
def text (w : World σ κ) (arg : String) : Except Failure String :=
  if arg = "-" then .ok w.input
  else
    match argumentPath? arg with
    | some path => required (.cannotRead path) (w.fileText path)
    | none => .ok arg

end World

def planOf (text : String) : Except Failure Plan :=
  required .invalidPlan ((Json.parse? text).bind Plan.ofJson?)

def exprOf (text : String) : Except Failure Expr :=
  required .invalidExpression ((Json.parse? text).bind Expr.ofJson?)

def statementJson (s : Statement) : Json :=
  .obj [("dialect_sql", .str s.sql), ("parameters", .arr (s.parameters.map Value.toJson))]

def Destination.metadata (d : Destination) : Except Failure Metadata := do
  return ⟨d.driver, ← checked (ConnectionDescriptor.decode d.connection), d.user⟩

/-- Explain a failed connection by the patterns of the driver. -/
def explain (r : Registry) (driverId : String) : Error → Failure
  | .connection issue =>
    match r.resolve driverId with
    | .ok d => .unconnected (humanize d.errorPatterns issue.message) issue
    | .error e => .refused e
  | e => .refused e

def perform (w : World σ κ) (config : Config) (r : Registry) : Command → Except Failure Reply
  | .drivers => .ok (.shown (Table.ofDrivers r).render)
  | .classify sql driver => do
    let sql ← w.text sql
    let parser ← match driver with
      | none => pure Ansi.parser
      | some id => do pure (Guard.parserOf (← checked (r.resolve id)))
    return .shown (Table.ofStatements sql (parser.classify sql)).render
  | .translate input driver isExpression => do
    let input ← w.text input
    let driver ← checked (r.resolve driver)
    let options ← checked config.translateOptions
    let statement ←
      if isExpression then checked (Expr.compile driver options (← exprOf input))
      else checked ((← planOf input).compile driver options)
    return .shown ((statementJson statement).pretty 0)
  | .authorize sql destination => do
    let query := Query.native (← w.text sql) []
    match ← checked (Guard.authorize ⟨r, config.policySet⟩ query (← destination.metadata)) with
    | .deny reason => return .denied reason
    | .allow => return .shown "allowed"
  | .run input destination isPlan => do
    let input ← w.text input
    let query ← if isPlan then do pure (.plan (← planOf input)) else pure (.native input [])
    let executor : Executor σ κ := {
      guard := ⟨r, config.policySet⟩
      source := w.source r
      translation := ← checked config.translateOptions
      session := config.session }
    let metadata ← destination.metadata
    match (executor.execute destination.driver query metadata w.initial).1 with
    | .ok result => return .shown (Table.ofResult result).render
    | .error e => .error (explain r destination.driver e)

/-- Load the configuration, then do the command. -/
def invoke (w : World σ κ) (i : Invocation) : Except Failure Reply := do
  let config ← w.config i.config
  let registry ← checked (Registry.ofConfig config)
  perform w config registry i.command

def run (w : World σ κ) (args : List String) : Outcome :=
  match Request.ofArguments w.preset args with
  | .misuse => { code := 2 }
  | .version => { output := w.program.name ++ " " ++ w.program.version ++ "\n" }
  | .help none => { output := Manual.frontPage w.program w.preset ++ "\n" }
  | .help (some e) => { output := Manual.page w.program w.preset e ++ "\n" }
  | .invoke i =>
    match invoke w i with
    | .ok (.shown text) => { output := text ++ "\n" }
    | .ok (.denied reason) => { code := 1, output := "denied: " ++ reason.message ++ "\n" }
    | .error failure => { code := 1, failure := some failure }

end Sluice.Console
