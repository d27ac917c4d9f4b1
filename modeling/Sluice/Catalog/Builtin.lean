import Sluice.Backend.H2
import Sluice.Catalog
import Sluice.Postgres.Client
import Sluice.Sqlite.Connection
import Sluice.Sqlite.Embedded

/-!
# Built-in connectors

Databases that are embedded here, and servers that are reached over a network. H2 is known but has
no connection of its own.
-/

namespace Sluice

/-- An open connection, to a database or to a server. -/
inductive Session (σ : Type) where
  | embedded (c : Sqlite.Connection Sqlite.Database)
  | remote (c : Postgres.Connection σ)

namespace Session

/-- The identifier of the driver behind a connection. -/
def driverId : Session σ → String
  | embedded _ => Sqlite.id
  | remote _ => Postgres.id

def link (server : Postgres.Server σ) : Link (Session σ) where
  execute := fun sql params => fun
    | embedded c => let (r, c) := c.execute Sqlite.Database.engine sql params; (r, embedded c)
    | remote c => let (r, c) := c.execute server sql params; (r, remote c)
  query := fun sql params => fun
    | embedded c => let (r, c) := c.query Sqlite.Database.engine sql params; (r, embedded c)
    | remote c => let (r, c) := c.query server sql params; (r, remote c)

end Session

def Sqlite.connector (s : Sqlite.Surroundings) : Connector (Session σ) where
  id := Sqlite.id
  displayName := Sqlite.descriptor.displayName
  descriptor := .ok Sqlite.descriptor
  connect := fun d => (Sqlite.Connection.connect s {} d).map .embedded

def Postgres.connector (net : Postgres.Network σ) : Connector (Session σ) where
  id := Postgres.id
  displayName := Postgres.descriptor.displayName
  descriptor := .ok Postgres.descriptor
  connect := fun d => (Postgres.connect net d net.initial).1.map .remote

/-- The connector of H2. -/
def H2.connector : Connector κ where
  id := H2.id
  displayName := H2.descriptor.displayName
  descriptor := .ok H2.descriptor

def Catalog.builtin (s : Sqlite.Surroundings) (net : Postgres.Network σ) :
    Catalog (Session σ) :=
  ((Catalog.register {} (Sqlite.connector s)).register (Postgres.connector net)).register
    H2.connector

end Sluice
