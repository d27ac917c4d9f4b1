import Sluice.Backend.H2
import Sluice.Backend.Postgres
import Sluice.Backend.Sqlite
import Sluice.Config

/-!
# Built-in drivers

The registry of all built-in drivers, and of those that a configuration adds in its own order.
-/

namespace Sluice

namespace Registry

def builtin : Registry where
  root := ⟨Ansi.descriptor, []⟩
  others := [⟨H2.descriptor, [Ansi.descriptor]⟩, ⟨Postgres.descriptor, [Ansi.descriptor]⟩,
    ⟨Sqlite.descriptor, [Ansi.descriptor]⟩]

/-- Add the drivers of a configuration, each of which may build on earlier ones. -/
def addConfigured (r : Registry) (drivers : List DriverConfig) : Except Error Registry :=
  drivers.foldlM (fun r c => do r.register (← c.toDescriptor)) r

def ofConfig (c : Config) : Except Error Registry := builtin.addConfigured c.drivers

end Registry

end Sluice
