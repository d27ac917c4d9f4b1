import Sluice.Backend.Sqlite
import Sluice.Execution
import Sluice.Sqlite.Engine
import Sluice.Sqlite.Location

/-!
# Connections to the embedded database

A statement is prepared, then values are bound to its parameters, then it runs; each of these fails
in its own way. All of it is done by an engine.
-/

namespace Sluice.Sqlite

/-- A connection to a database; `σ` is what the engine keeps for it. -/
structure Connection (σ : Type) where
  state : σ
  closed : Bool := false
deriving DecidableEq, Inhabited

namespace Connection

variable {σ π : Type}

/-- Open the database at a place, where the engine finds `initial`. -/
def openAt (s : Surroundings) (initial : σ) (path : String) : Except Error (Connection σ) :=
  (Location.resolve s path).map fun () => { state := initial }

def connect (s : Surroundings) (initial : σ) (d : ConnectionDescriptor) :
    Except Error (Connection σ) :=
  if d.target.isEmpty then .error (.configuration .missingDatabasePath)
  else openAt s initial d.target

def close (c : Connection σ) : Connection σ := { c with closed := true }

/-- What a failure of each step is reported as, given what the engine says about it. -/
structure Failures where
  prepare : String → QueryIssue
  bind : String → QueryIssue
  run : String → QueryIssue

/-- Run a statement: what it was prepared to, the rows it returned, and the connection then. -/
def submit (engine : Engine σ π) (f : Failures) (sql : String) (params : List Value)
    (c : Connection σ) : Except Error (π × List (List Cell)) × Connection σ :=
  if c.closed then (.error (.connection .closed), c)
  else
    let cells := params.map Cell.ofValue
    match engine.prepare sql c.state with
    | (.error why, s) => (.error (.query (f.prepare why)), { c with state := s })
    | (.ok p, s) =>
      match engine.bind p cells with
      | .error why => (.error (.query (f.bind why)), { c with state := s })
      | .ok () =>
        let (result, s) := engine.run p cells s
        (match result with
          | .ok rows => .ok (p, rows)
          | .error why => .error (.query (f.run why)), { c with state := s })

/-- Run a statement without looking at its rows. The count is that of the last insertion, update or
deletion, which need not be this statement. -/
def execute (engine : Engine σ π) (sql : String) (params : List Value) (c : Connection σ) :
    Except Error UInt64 × Connection σ :=
  let failures : Failures := ⟨.prepareStatement, .executeStatement, .executeStatement⟩
  let (result, c) := c.submit engine failures sql params
  (result.map fun _ => engine.changes c.state, c)

end Connection

/-- The driver of the database's own types. -/
def driver : Driver := ⟨descriptor, [Ansi.descriptor]⟩

def dynamicType : String := "DYNAMIC"

/-- The columns of a result, counted from a position on. -/
def columnsFrom : Nat → List (String × Option String) → List Column
  | _, [] => []
  | ordinal, (name, declared) :: rest =>
    let type := declared.getD dynamicType
    ⟨name, type, driver.semanticType type, true, ordinal⟩ :: columnsFrom (ordinal + 1) rest

namespace Connection

variable {σ π : Type}

/-- Run a query and read its rows. -/
def query (engine : Engine σ π) (sql : String) (params : List Value) (c : Connection σ) :
    Except Error QueryResult × Connection σ :=
  let failures : Failures := ⟨.prepareQuery, .executeQuery, .fetchRow⟩
  let (result, after) := c.submit engine failures sql params
  (result.map fun (p, rows) =>
    let columns := engine.columns p
    let names := columns.map (·.1)
    ⟨columnsFrom 0 columns, rows.map fun cells => ⟨names, cells.map Cell.toValue⟩, 0, []⟩, after)

def link (engine : Engine σ π) : Link (Connection σ) := ⟨execute engine, query engine⟩

end Connection

end Sluice.Sqlite
