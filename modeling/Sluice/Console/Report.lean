import Sluice.Classify
import Sluice.Console.Table
import Sluice.Registry
import Sluice.Result

/-!
# Reports

Drivers, classified statements and results of queries as tables.
-/

namespace Sluice.Console.Table

def ofDrivers (r : Registry) : Table where
  header := ["driver", "name", "parent"] ++ Capability.all.map Capability.flag
  rows := (r.list.filterMap r.get?).map fun d =>
    [d.id, d.displayName, (d.parent?.map (·.id)).getD ""] ++
      Capability.all.map fun c => if d.capability c then "yes" else "no"

/-- The text between two offsets in bytes, empty where they cut a character. -/
def between (start stop : Nat) (text : List Char) : List Char :=
  match Scan.splitAtByte start text with
  | none => []
  | some (_, rest) => ((Scan.splitAtByte (stop - start) rest).map (·.1)).getD []

/-- The statements of a text, numbered from one on. -/
def ofStatements (sql : String) (statements : List Classification) : Table where
  header := ["#", "kind", "class", "statement"]
  rows := statements.zipIdx.map fun (c, i) =>
    [toString (i + 1), c.kind.name, c.className,
      String.ofList (Text.trimChars (between c.start c.stop sql.toList))]

/-- The rows of a result under the names and types of its columns. -/
def ofResult (r : QueryResult) : Table where
  header := r.columns.map fun c => c.name ++ " (" ++ c.semanticType.name ++ ")"
  rows := r.rows.map fun row => row.values.map Value.render

end Sluice.Console.Table
