import Sluice.Console.Manual

/-!
# Command lines

A command line names one command. Options may stand before or after the other arguments, as
`--name value` or `--name=value`; after `--` every argument is meant literally. An option may be
given once, and everything a command needs must be there.
-/

namespace Sluice.Console

open Text

/-- Which database a query is for, and by whom it is asked. -/
structure Destination where
  driver : String
  connection : String
  user : Option String
deriving DecidableEq, Inhabited

inductive Command where
  | drivers
  | classify (sql : String) (driver : Option String)
  | translate (input driver : String) (isExpression : Bool)
  | authorize (sql : String) (destination : Destination)
  | run (input : String) (destination : Destination) (isPlan : Bool)
deriving DecidableEq, Inhabited

structure Invocation where
  config : Option String
  command : Command
deriving DecidableEq, Inhabited

/-- What a command line asks for. -/
inductive Request where
  | invoke (i : Invocation)
  /-- The manual's page on a command, or its front page. -/
  | help (topic : Option CommandEntry)
  | version
  /-- Nothing that could be done. -/
  | misuse
deriving DecidableEq, Inhabited

structure Sorted where
  options : List (String × String) := []
  flags : List String := []
  /-- The arguments that belong to no option. -/
  plain : List String := []
deriving DecidableEq, Inhabited

namespace Sorted

def option? (s : Sorted) (name : String) : Option String := s.options.lookup name

def has (s : Sorted) (name : String) : Bool := s.flags.contains name

end Sorted

/-- Why reading a command line ends before its end. -/
inductive Stop where
  | misuse
  | help
  | version
deriving DecidableEq

namespace Arguments

def set (s : Sorted) (name value : String) : Except Stop Sorted :=
  if (s.option? name).isSome then .error .misuse
  else .ok { s with options := s.options ++ [(name, value)] }

/-- Raise a flag that was not raised before, unless it may be repeated. -/
def raise (s : Sorted) (e : OptionEntry) : Except Stop Sorted :=
  if e.use ≠ .repeated && s.has e.name then .error .misuse
  else .ok { s with flags := s.flags ++ [e.name] }

/-- Letters after one dash. Only the program as a whole has a version. -/
def letters (isOuter : Bool) (s : Sorted) : List Char → Except Stop Sorted
  | [] => .ok s
  | 'v' :: rest => do letters isOuter (← raise s Manual.verbose) rest
  | 'h' :: _ => .error .help
  | 'V' :: _ => .error (if isOuter then .version else .misuse)
  | _ => .error .misuse

/-- Whether an argument cannot be the value of an option before it. -/
def looksLikeOption (a : String) : Bool := a.startsWith "-" && a ≠ "-"

/-- Sort arguments by the options that are known. Before the command, which is the first plain
argument, sorting ends there. -/
def sort (known : List OptionEntry) (isOuter : Bool) : Sorted → List String → Except Stop Sorted
  | s, [] => .ok s
  | s, a :: rest =>
    if a = "--" then
      if isOuter then .error .misuse else .ok { s with plain := s.plain ++ rest }
    else
      match dropPrefix? "--".toList a.toList with
      | some body =>
        let name := String.ofList (body.takeWhile (· ≠ '='))
        let value := (body.dropWhile (· ≠ '=')).tail?.map String.ofList
        match known.find? (·.name == name), value, rest with
        | some e, some v, rest => do
          if e.takesValue then sort known isOuter (← set s name v) rest else .error .misuse
        | some e, none, [] => do
          if e.takesValue then .error .misuse else raise s e
        | some e, none, v :: rest => do
          if !e.takesValue then sort known isOuter (← raise s e) (v :: rest)
          else if looksLikeOption v then .error .misuse
          else sort known isOuter (← set s name v) rest
        | none, some _, _ => .error .misuse
        | none, none, _ =>
          if name = "help" then .error .help
          else if name = "version" && isOuter then .error .version
          else .error .misuse
      | none =>
        if looksLikeOption a then do sort known isOuter (← letters isOuter s a.toList.tail) rest
        else if isOuter then .ok { s with plain := a :: rest }
        else sort known isOuter { s with plain := s.plain ++ [a] } rest
termination_by _ args => args.length

/-- The value of an option that must be there. -/
def need (s : Sorted) (name : String) : Except Stop String :=
  match s.option? name with
  | some v => .ok v
  | none => .error .misuse

/-- The only plain argument. -/
def single (s : Sorted) : Except Stop String :=
  match s.plain with
  | [a] => .ok a
  | _ => .error .misuse

/-- The options that say where a query goes. -/
def destination (s : Sorted) : Except Stop Destination := do
  return ⟨← need s "driver", ← need s "connection", s.option? "user"⟩

def command (name : String) (s : Sorted) : Except Stop Command :=
  match name with
  | "drivers" => if s.plain.isEmpty then .ok .drivers else .error .misuse
  | "classify" => do return .classify (← single s) (s.option? "driver")
  | "translate" => do return .translate (← single s) (← need s "driver") (s.has "expression")
  | "authorize" => do return .authorize (← single s) (← destination s)
  | "run" => do return .run (← single s) (← destination s) (s.has "plan")
  | _ => .error .misuse

/-- The path of the configuration: as given, else as preset. It must not be empty. -/
def configPath (preset : Option String) (s : Sorted) : Except Stop (Option String) :=
  match s.option? Manual.config.name <|> preset with
  | some "" => .error .misuse
  | path => .ok path

def readCommand (preset : Option String) (outer : Sorted) (e : CommandEntry)
    (args : List String) : Except Stop Invocation := do
  let outerPath ← configPath preset outer
  let inner ← sort (Manual.common ++ e.options) false {} args
  let command ← command e.name inner
  let _ ← configPath preset inner
  return ⟨inner.option? Manual.config.name <|> outerPath, command⟩

end Arguments

/-- What is asked for when reading stopped, under a topic. -/
def Stop.toRequest (topic : Option CommandEntry) : Stop → Request
  | misuse => .misuse
  | help => .help topic
  | version => .version

/-- Read a command line; `preset` is the configuration to use if the command line names none. -/
def Request.ofArguments (preset : Option String) (args : List String) : Request :=
  match Arguments.sort Manual.common true {} args with
  | .error stop => stop.toRequest none
  | .ok outer =>
    match outer.plain with
    | [] | "help" :: _ :: _ :: _ => .misuse
    | ["help"] => .help none
    | ["help", name] => ((Manual.find? name).map fun e => .help (some e)).getD .misuse
    | name :: rest =>
      match Manual.find? name with
      | none => .misuse
      | some e =>
        match Arguments.readCommand preset outer e rest with
        | .ok i => .invoke i
        | .error stop => stop.toRequest (some e)

example : Request.ofArguments none ["-vv", "classify", "-", "--driver=h2"] =
    .invoke ⟨none, .classify "-" (some "h2")⟩ := by cbv
example : Request.ofArguments none ["classify", "a", "b"] = .misuse := by cbv
example : Request.ofArguments none ["translate", "x", "--driver", "--expression"] = .misuse := by
  cbv

end Sluice.Console
