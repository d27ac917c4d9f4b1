import Sluice.Backend.Ansi

/-!
# SQLite

SQLite keeps points in time as text, so every temporal operation goes through its date functions
and their modifiers.
-/

namespace Sluice.Sqlite

def id : String := "sqlite"

def strftime (format : String) : Operation := .around ("strftime('" ++ format ++ "', ") ")"

/-- The year and the first month of the quarter, printed as the start of a day. -/
def truncateQuarter : Operation := fun operand => do
  let year ← operand
  let month ← operand
  return "printf('%s-%02d-01 00:00:00', strftime('%Y', " ++ year ++ "), (CAST(strftime('%m', " ++
    month ++ ") AS INTEGER) + 2) / 3 * 3 - 2)"

/-- Cut to a unit by a format with the finer fields written out. -/
def truncate : TruncateUnit → Operation
  | .minute => strftime "%Y-%m-%d %H:%M:00"
  | .hour => strftime "%Y-%m-%d %H:00:00"
  | .day => strftime "%Y-%m-%d 00:00:00"
  | .month => strftime "%Y-%m-01 00:00:00"
  | .quarter => truncateQuarter
  | .year => strftime "%Y-01-01 00:00:00"
  | unit => fun _ => throw (.translation (.cannotTruncate "SQLite" unit))

def fieldNumber (format : String) : Operation :=
  .around ("CAST(strftime('" ++ format ++ "', ") ") AS INTEGER)"

def extract : DateField → Operation
  | .minute => fieldNumber "%M"
  | .hour => fieldNumber "%H"
  | .day => fieldNumber "%d"
  | .month => fieldNumber "%m"
  | .year => fieldNumber "%Y"
  | .quarter => .around "((CAST(strftime('%m', " ") AS INTEGER) + 2) / 3)"

/-- The format `%w` numbers Sunday as 0. -/
def dayOfWeek : Operation :=
  .around "((CAST(strftime('%w', " ") AS INTEGER) + 6) % 7 + 1)"

/-- What stands before and after the amount in a modifier. -/
def modifier : IntervalUnit → String × String
  | .millisecond => ("((", ") / 1000.0) || ' seconds'")
  | .second => ("(", ") || ' seconds'")
  | .minute => ("(", ") || ' minutes'")
  | .hour => ("(", ") || ' hours'")
  | .day => ("(", ") || ' days'")
  | .month => ("(", ") || ' months'")
  | .year => ("(", ") || ' years'")
  | .week => ("((", ") * 7) || ' days'")
  | .quarter => ("((", ") * 3) || ' months'")

/-- What starts the call; only the finest units keep fractions of a second. -/
def intervalFunction : IntervalUnit → String
  | .millisecond | .second => "strftime('%Y-%m-%d %H:%M:%f', "
  | _ => "datetime("

/-- A date function with a modifier. -/
def intervalAdd (unit : IntervalUnit) (amount base : TranslateM String) : TranslateM String := do
  let base ← base
  let amount ← amount
  let (before, after) := modifier unit
  return intervalFunction unit ++ base ++ ", " ++ before ++ amount ++ after ++ ")"

/-- Dates and times have functions of their own; all else is cast. -/
def cast (native : String) : Operation :=
  match native with
  | "DATE" => .around "date(" ")"
  | "TIME" => .around "time(" ")"
  | "DATETIME" => .around "datetime(" ")"
  | native => Ansi.cast native

/-- Writing is switched off. -/
def sessionSetup (options : SessionOptions) : List String :=
  if options.readOnly then ["PRAGMA query_only = ON"] else []

def dialect : Dialect where
  truncate := some truncate
  extract := some extract
  intervalAdd := some intervalAdd
  dayOfWeek := some dayOfWeek
  cast := some cast
  sessionSetup := some sessionSetup

def descriptor : Descriptor where
  id := id
  displayName := "SQLite"
  parent := some Ansi.id
  types := [("INT", .integer), ("INTEGER", .bigInteger), ("REAL", .float), ("NUMERIC", .decimal),
    ("TEXT", .text), ("DATETIME", .dateTime), ("DYNAMIC", .other)]
  casts := [(.integer, "INTEGER"), (.bigInteger, "INTEGER"), (.float, "REAL"),
    (.decimal, "NUMERIC"), (.boolean, "INTEGER"), (.text, "TEXT"), (.date, "DATE"),
    (.time, "TIME"), (.dateTime, "DATETIME"), (.dateTimeWithZone, "DATETIME")]
  dialect := dialect
  parser := some (.ofRecognizer "sqlite" (Sql.recognize .sqlite))
  patterns := [
    ⟨.literal "unable to open database file", .missingDatabase⟩,
    ⟨.literal "Parent directory does not exist", .missingDatabase⟩]

end Sluice.Sqlite
