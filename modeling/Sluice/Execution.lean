import Sluice.Guard
import Sluice.Result
import Sluice.Translation

/-!
# Guarded execution

A query is approved before any connection is asked for. The connection is borrowed: it is prepared
for the session, used for the one statement, and handed back whatever happened to it.
-/

namespace Sluice

/-- How statements are sent over a connection; every use leaves a new state of it. -/
structure Link (κ : Type) where
  /-- Run a statement without rows and say how many rows it changed. -/
  execute : String → List Value → κ → Except Error UInt64 × κ
  /-- Run a statement and return its rows. -/
  query : String → List Value → κ → Except Error QueryResult × κ

/-- Hands out connections and takes them back. `σ` is what the source itself remembers. -/
structure Source (σ κ : Type) extends Link κ where
  acquire : Metadata → σ → Except Error κ × σ
  release : κ → σ → σ

/-- How a compiled statement is run on a borrowed connection. -/
abbrev Pipeline (κ : Type) := Statement → κ → Except Error QueryResult × κ

namespace Link

def direct (l : Link κ) : Pipeline κ := fun s c => l.query s.sql s.parameters c

/-- Run statements in order, up to the first that fails. -/
def prepare (l : Link κ) : List String → κ → Except Error Unit × κ
  | [], c => (.ok (), c)
  | sql :: rest, c =>
    match l.execute sql [] c with
    | (.ok _, c) => l.prepare rest c
    | (.error e, c) => (.error e, c)

end Link

/-- An approved query: what is sent, and what prepares the session for it. -/
structure Work where
  setup : List String
  statement : Statement
deriving DecidableEq, Inhabited

/-- Authorizes, compiles and runs queries. -/
structure Executor (σ κ : Type) where
  guard : Guard
  source : Source σ κ
  pipeline : Pipeline κ := source.toLink.direct
  translation : TranslateOptions := {}
  session : SessionOptions := {}

namespace Executor

/-- Decide whether a query may run, and compile it. -/
def approve (x : Executor σ κ) (driverId : String) (q : Query) (m : Metadata) : Except Error Work :=
  if m.driverId ≠ driverId then
    .error (.configuration (.foreignMetadata m.driverId driverId))
  else do
    let driver ← x.guard.registry.resolve driverId
    (← x.guard.authorize q m).toResult
    let statement ← q.compile driver x.translation
    return ⟨driver.sessionSetup x.session, statement⟩

/-- Prepare the session, then run the statement. -/
def perform (x : Executor σ κ) (w : Work) (c : κ) : Except Error QueryResult × κ :=
  match x.source.prepare w.setup c with
  | (.ok (), c) => x.pipeline w.statement c
  | (.error e, c) => (.error e, c)

/-- Run a query on the connection that the metadata describe. -/
def execute (x : Executor σ κ) (driverId : String) (q : Query) (m : Metadata) (s : σ) :
    Except Error QueryResult × σ :=
  match x.approve driverId q m with
  | .error e => (.error e, s)
  | .ok w =>
    match x.source.acquire m s with
    | (.error e, s) => (.error e, s)
    | (.ok c, s) =>
      let (result, c) := x.perform w c
      (result, x.source.release c s)

end Executor

end Sluice
