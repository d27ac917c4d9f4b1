import Sluice.Text.Ascii

/-!
# The manual

What commands there are and which options they know. The pages that explain them to users are made
from the same entries that command lines are read by, so that neither says more than the other.
-/

namespace Sluice.Console

structure Program where
  name : String
  version : String
  /-- The variable that names a configuration when the command line names none. -/
  variableName : String

/-- How an option stands on a command line. -/
inductive OptionUse where
  /-- By itself, once. -/
  | flag
  /-- By itself, any number of times. -/
  | repeated
  /-- With a value after it. -/
  | value (isRequired : Bool)
deriving DecidableEq, Inhabited

structure OptionEntry where
  name : String
  letter : Option Char := none
  use : OptionUse
  about : String := ""
deriving DecidableEq, Inhabited

structure CommandEntry where
  name : String
  about : String
  /-- Name and meaning of its plain argument. -/
  argument : Option (String × String) := none
  options : List OptionEntry := []
deriving DecidableEq, Inhabited

namespace OptionEntry

def takesValue (e : OptionEntry) : Bool :=
  match e.use with
  | .value _ => true
  | _ => false

def written (e : OptionEntry) : String :=
  "--" ++ e.name ++
    match e.use with
    | .flag => ""
    | .repeated => "..."
    | .value _ => " <" ++ Text.upperAscii e.name ++ ">"

/-- What decides between options that stand equally far from the start of their lists. -/
def sortKey (e : OptionEntry) : String :=
  match e.letter with
  | some c => String.ofList [c, '0']
  | none => e.name

end OptionEntry

namespace Manual

def config : OptionEntry where
  name := "config"
  use := .value false
  about := "Configuration file (TOML)"

def verbose : OptionEntry where
  name := "verbose"
  letter := some 'v'
  use := .repeated
  about := "Increase log output (-v info, -vv debug, -vvv trace)"

def common : List OptionEntry := [config, verbose]

/-- The options that say where a query goes. -/
def destination : List OptionEntry := [
  { name := "driver", use := .value true },
  { name := "connection", use := .value true,
    about := "Connection string, e.g. \x60file:/data/db;USER=reader\x60" },
  { name := "user", use := .value false,
    about := "Authenticated user, overriding the connection string's USER" }]

def commands : List CommandEntry := [
  { name := "drivers", about := "List registered drivers and their capabilities" },
  { name := "classify", about := "Split SQL into statements and classify each one"
    argument := some ("SQL", "SQL text, \x60@file\x60 to read a file, or \x60-\x60 for stdin")
    options := [
      { name := "driver", use := .value false, about := "Parse with this driver's dialect" }] },
  { name := "translate", about := "Translate a JSON query plan into dialect SQL"
    argument := some ("INPUT", "JSON text, \x60@file\x60 to read a file, or \x60-\x60 for stdin")
    options := [{ name := "driver", use := .value true },
      { name := "expression", use := .flag,
        about := "Input is a single expression instead of a query plan" }] },
  { name := "authorize", about := "Check whether a native query would be allowed"
    argument := some ("SQL", "SQL text, \x60@file\x60 to read a file, or \x60-\x60 for stdin")
    options := destination },
  { name := "run", about := "Authorize and execute a query"
    argument := some
      ("INPUT", "SQL text (or a JSON plan with --plan), \x60@file\x60, or \x60-\x60 for stdin")
    options := destination ++
      [{ name := "plan", use := .flag, about := "Input is a JSON query plan" }] }]

def find? (name : String) : Option CommandEntry := commands.find? (·.name == name)

/-! ## Pages -/

/-- Options in the order of a page: by their place in their own lists, then by key. -/
def arranged (own : List OptionEntry) : List OptionEntry :=
  let placed := (common.zipIdx ++ own.zipIdx).mergeSort fun (a, i) (b, j) =>
    decide (i < j) || (i == j && decide (a.sortKey ≤ b.sortKey))
  placed.map (·.1)

/-- Terms and their explanations in two columns. -/
def glossary (entries : List (String × String)) : List String :=
  let width := (entries.map (·.1.length)).foldl max 0
  entries.map fun (term, meaning) =>
    "  " ++ String.ofList (term.toList ++ List.replicate (width - term.length + 2) ' ') ++ meaning

/-- A letter for an option, or the room of one. -/
def lettered (letter : Option Char) (written : String) : String :=
  (match letter with
    | some c => String.ofList ['-', c] ++ ", "
    | none => "    ") ++ written

/-- The options of a page; `preset` is the configuration that the variable names. -/
def optionLines (p : Program) (preset : Option String) (own : List OptionEntry)
    (hasVersion : Bool) : List String :=
  let entries := (arranged own).map fun e =>
    (lettered e.letter e.written,
      if e.name = config.name then
        e.about ++ " [env: " ++ p.variableName ++ "=" ++ preset.getD "" ++ "]"
      else e.about)
  glossary (entries ++ [(lettered (some 'h') "--help", "Print help")] ++
    if hasVersion then [(lettered (some 'V') "--version", "Print version")] else [])

def frontPage (p : Program) (preset : Option String) : String :=
  let names := commands.map fun c => (c.name, c.about)
  "\n".intercalate
    (["Dialect translation and statement safety checks for SQL backends", "",
      "Usage: " ++ p.name ++ " [OPTIONS] <COMMAND>", "", "Commands:"] ++
    glossary (names ++ [("help", "Print this message or the help of the given subcommand(s)")]) ++
    ["", "Options:"] ++ optionLines p preset [] true)

def page (p : Program) (preset : Option String) (c : CommandEntry) : String :=
  let required := c.options.filter (·.use == .value true)
  let argument := c.argument.toList.map fun (name, about) => ("<" ++ name ++ ">", about)
  let usage :=
    [p.name, c.name, "[OPTIONS]"] ++ required.map OptionEntry.written ++ argument.map (·.1)
  "\n".intercalate
    ([c.about, "", "Usage: " ++ " ".intercalate usage, ""] ++
    (if argument.isEmpty then [] else "Arguments:" :: glossary argument ++ [""]) ++
    "Options:" :: optionLines p preset c.options false)

end Manual

end Sluice.Console
