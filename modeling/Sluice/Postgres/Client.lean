import Sluice.Backend.Postgres
import Sluice.Execution
import Sluice.Postgres.Server
import Sluice.Postgres.Wire

/-!
# Connections to a server

A client tries the doors of its target in turn. Statements are prepared first; their parameters are
then encoded for the slots that the server announced, and cells are decoded by the types of the
columns, which are known even when there are no rows.
-/

namespace Sluice.Postgres

/-- A connection: the state of the server behind it, and whether it was closed. -/
structure Connection (σ : Type) where
  server : σ
  closed : Bool := false

/-- Whether a text can be sent, since a zero byte ends every text. -/
def isSendable (s : String) : Bool := !s.toList.any (· = '\x00')

/-! ## Connecting -/

/-- A connection that the client could not make. -/
def unreachable (why : String) : Except Error α := .error (.connection (.cannotReachServer why))

def refused (e : ServerError) : Except Error α := .error (.connection (.refusedByServer e.explain))

/-- Introduce oneself at an open door. -/
def enter (net : Network σ) (t : Target) (s : σ) : Except Error Unit × σ :=
  let startup := t.startup net.account
  if t.requiresEncryption then (unreachable "error performing TLS handshake", s)
  else if !startup.all (fun (_, v) => isSendable v) then
    (unreachable "error encoding message to server", s)
  else
    match net.server.greet startup s with
    | (.refuse e, s) => (refused e, s)
    | (.welcome, s) =>
      (if t.requiresChannelBinding then unreachable "authentication error" else .ok (), s)
    | (.askPassword, s) =>
      match t.password with
      | none => (unreachable "invalid configuration: password missing", s)
      | some password =>
        if t.requiresChannelBinding || password.contains 0 then
          (unreachable "authentication error", s)
        else
          match net.server.login password s with
          | (.error e, s) => (refused e, s)
          | (.ok (), s) => (.ok (), s)

/-- Try doors in turn; if none lets the client in, the last failure counts. -/
def tryDoors (net : Network σ) (t : Target) :
    List Target.Door → Except Error Unit → σ → Except Error Unit × σ
  | [], failure, s => (failure, s)
  | door :: doors, _, s =>
    if net.answersAt door then
      match enter net t s with
      | (.ok (), s) => (.ok (), s)
      | (.error e, s) => tryDoors net t doors (.error e) s
    else tryDoors net t doors (unreachable "error connecting to server") s

def dial (net : Network σ) (t : Target) (s : σ) : Except Error (Connection σ) × σ :=
  match t.doors? with
  | none => (unreachable "invalid configuration", s)
  | some doors =>
    let (entered, s) := tryDoors net t doors (unreachable "invalid configuration") s
    (entered.map fun () => ⟨s, false⟩, s)

def connect (net : Network σ) (d : ConnectionDescriptor) (s : σ) :
    Except Error (Connection σ) × σ :=
  match Target.ofDescriptor d with
  | .error e => (.error e, s)
  | .ok t => dial net t s

/-! ## Statements -/

namespace Connection

def close (c : Connection σ) : Connection σ := { c with closed := true }

/-- Prepare a statement, encode its parameters, and run it. The two functions say how failures of
preparing and of running are reported. -/
def submit (server : Server σ) (prepareFailed runFailed : String → QueryIssue) (sql : String)
    (params : List Value) (c : Connection σ) : Except Error (Prepared × Reply) × Connection σ :=
  if c.closed then (.error (.connection .closed), c)
  else if !isSendable sql then (.error (.query (prepareFailed "")), c)
  else
    match server.prepare sql c.server with
    | (.error e, s) => (.error (.query (prepareFailed e.explain)), { c with server := s })
    | (.ok prepared, s) =>
      if params.length ≠ prepared.slots.length then
        (.error (.query (runFailed "")), { c with server := s })
      else
        match server.run ((parameters prepared.slots params).map Parameter.encode) s with
        | (.error e, s) => (.error (.query (runFailed e.explain)), { c with server := s })
        | (.ok reply, s) => (.ok (prepared, reply), { c with server := s })

/-- Run a statement and say how many rows it concerned. -/
def execute (server : Server σ) (sql : String) (params : List Value) (c : Connection σ) :
    Except Error UInt64 × Connection σ :=
  let (result, c) := c.submit server .prepareStatement .executeStatement sql params
  (result.map fun (_, reply) => reply.affected, c)

end Connection

/-- The driver of the server's own types. -/
def driver : Driver := ⟨descriptor, [Ansi.descriptor]⟩

/-- The columns of a prepared statement, counted from a position on. -/
def columnsFrom : Nat → List (String × String) → List Column
  | _, [] => []
  | ordinal, (name, type) :: rest =>
    ⟨name, type, driver.semanticType type, true, ordinal⟩ :: columnsFrom (ordinal + 1) rest

/-- The result of a query from what the server sent. -/
def resultOf (prepared : Prepared) (reply : Reply) : Except Error QueryResult := do
  let names := prepared.columns.map (·.1)
  let rows ← reply.rows.mapM fun cells =>
    (decodeRow 0 (prepared.columns.map (·.2)) cells).map fun values => (⟨names, values⟩ : Row)
  return ⟨columnsFrom 0 prepared.columns, rows, 0, []⟩

namespace Connection

/-- Run a query and read its rows. -/
def query (server : Server σ) (sql : String) (params : List Value) (c : Connection σ) :
    Except Error QueryResult × Connection σ :=
  let (result, c) := c.submit server .prepareQuery .executeQuery sql params
  (result.bind fun (prepared, reply) => resultOf prepared reply, c)

def link (server : Server σ) : Link (Connection σ) := ⟨execute server, query server⟩

end Connection

end Sluice.Postgres
