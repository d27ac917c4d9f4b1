import Sluice.Sqlite.Cell

/-!
# Engines as a connection sees them

An engine prepares a statement, binds values to its parameters and steps through its rows. It also
keeps a count of the rows that were changed last. What else it keeps is its own affair.
-/

namespace Sluice.Sqlite

/-- An engine. `σ` is what it keeps for one connection, and `π` what it prepares statements to.
Where it refuses or fails, it says why. -/
structure Engine (σ π : Type) where
  prepare : String → σ → Except String π × σ
  /-- Names and declared types of the columns; a computed column has no type. -/
  columns : π → List (String × Option String)
  bind : π → List Cell → Except String Unit
  /-- Step through a statement up to its end or its failure; every statement comes to one. -/
  run : π → List Cell → σ → Except String (List (List Cell)) × σ
  /-- How many rows the last insertion, update or deletion changed. -/
  changes : σ → UInt64

end Sluice.Sqlite
