import Sluice.Catalog.Builtin
import Sluice.Console

/-!
# The program

Reads what a command needs, runs the console on it and prints the outcome. No server is reached from
here, and a database in a file starts empty and is not written back.
-/

namespace Sluice

def program : Console.Program := ⟨"sluice", "0.1.0", "SLUICE_CONFIG"⟩

/-- The text of a file, if it can be read. -/
def textOfFile? (path : String) : IO (Option String) := do
  try return some (← IO.FS.readFile path) catch _ => return none

def connectionOf? : Console.Request → Option String
  | .invoke ⟨_, .run _ d _⟩ => some d.connection
  | _ => none

/-- The paths whose kind matters when a database is opened: its own, and that of its directory. -/
def pathsOf (s : Sqlite.Surroundings) (connection : String) : List String :=
  match ConnectionDescriptor.decode connection with
  | .error _ => []
  | .ok d =>
    let bare := (Text.dropPrefix? "file:".toList d.target.toList).getD d.target.toList
    match Sqlite.Location.expand s (String.ofList bare) with
    | .error _ => []
    | .ok path => path :: (Sqlite.Location.parent? path).toList

def surroundingsOf (request : Console.Request) : IO Sqlite.Surroundings := do
  let here ← IO.currentDir
  let bare : Sqlite.Surroundings := {
    home := ← IO.getEnv "HOME"
    workingDirectory := here.toString
    isDirectory := fun _ => false }
  let paths := ((connectionOf? request).map (pathsOf bare)).getD []
  let directories ← paths.filterM fun (p : String) => (here / p).isDir
  let existing ← paths.filterM fun (p : String) => (here / p).pathExists
  return { bare with
    isDirectory := directories.contains
    isFile := fun p => existing.contains p && !directories.contains p }

def worldOf (preset : Option String) (request : Console.Request) :
    IO (Console.World Unit (Session Unit)) := do
  let files ← match request with
    | .invoke i => i.files.mapM fun path => do return (path, ← textOfFile? path)
    | _ => pure []
  let input ← match request with
    | .invoke ⟨_, command⟩ =>
      if command.argument? = some "-" then do (← IO.getStdin).readToEnd else pure ""
    | _ => pure ""
  let catalog : Catalog (Session Unit) := .builtin (← surroundingsOf request) Postgres.offline
  return {
    program, preset, input
    fileText := fun path => (files.lookup path).join
    source := fun r => catalog.source r (Session.link Postgres.offline.server)
    initial := () }

end Sluice

open Sluice in
def main (args : List String) : IO UInt32 := do
  let preset ← IO.getEnv program.variableName
  let outcome := Console.run (← worldOf preset (.ofArguments preset args)) args
  IO.print outcome.output
  if let some failure := outcome.failure then IO.eprintln ("Error: " ++ failure.message)
  return outcome.code.toUInt32
