import Sluice.Sqlite.Database
import Sluice.Sqlite.Engine

/-!
# The embedded database as an engine

A statement is read and checked when it is prepared. A text without any statement is prepared to
nothing, which takes no values and cannot be run.
-/

namespace Sluice.Sqlite.Database

/-- A command that was checked, with what is known of it before it runs. -/
structure Prepared where
  command : Command
  parameters : Nat
  columns : List (String × Option String)

def prepare (sql : String) (db : Database) : Except String (Option Prepared) × Database :=
  match parse? sql with
  | none => (.error "", db)
  | some none => (.ok none, db)
  | some (some p) =>
    if db.check p.command then
      (.ok (some ⟨p.command, p.parameters, db.columns p.command⟩), db)
    else (.error "", db)

def bind (p : Option Prepared) (cells : List Cell) : Except String Unit :=
  if cells.length = (p.map (·.parameters)).getD 0 then .ok () else .error ""

def step (p : Option Prepared) (cells : List Cell) (db : Database) :
    Except String (List (List Cell)) × Database :=
  match p with
  | none => (.error "", db)
  | some p =>
    let (rows, db) := db.run cells p.command
    (match rows with
      | some rows => .ok rows
      | none => .error "", db)

def engine : Engine Database (Option Prepared) where
  prepare := prepare
  columns p := (p.map (·.columns)).getD []
  bind := bind
  run := step
  changes db := .ofNat db.changes

end Sluice.Sqlite.Database
