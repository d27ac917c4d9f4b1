import Sluice.Backend.Ansi

/-!
# H2

H2 cuts a point in time by formatting it without its finer fields and reading it back. Databases
are opened read-only and must exist, and nothing may run when a connection is opened.
-/

namespace Sluice.H2

def id : String := "h2"

/-- Format with a pattern and read back. -/
def reparse (pattern : String) : Operation :=
  .around "PARSEDATETIME(FORMATDATETIME(" (", '" ++ pattern ++ "'), '" ++ pattern ++ "')")

/-- The year followed by the first month of the quarter, read back. -/
def truncateQuarter : Operation := fun operand => do
  let year ← operand
  let quarter ← operand
  return "PARSEDATETIME(CONCAT(YEAR(" ++ year ++ "), LPAD(CAST(QUARTER(" ++ quarter ++
    ") * 3 - 2 AS VARCHAR), 2, '0')), 'yyyyMM')"

/-- Cut to a unit. A bare year reads back as a date and is cast. -/
def truncate : TruncateUnit → Operation
  | .minute => reparse "yyyyMMddHHmm"
  | .hour => reparse "yyyyMMddHH"
  | .day => reparse "yyyyMMdd"
  | .month => reparse "yyyyMM"
  | .quarter => truncateQuarter
  | .year => fun operand => Operation.around "CAST(" " AS TIMESTAMP)" (reparse "yyyy" operand)
  | unit => fun _ => throw (.translation (.cannotTruncate "H2" unit))

def extractFunction : DateField → String
  | .minute => "MINUTE" | .hour => "HOUR" | .day => "DAY_OF_MONTH" | .month => "MONTH"
  | .quarter => "QUARTER" | .year => "YEAR"

def extract (field : DateField) : Operation := .around (extractFunction field ++ "(") ")"

/-- `DATEADD`, the amount first. -/
def intervalAdd (unit : IntervalUnit) (amount base : TranslateM String) : TranslateM String := do
  let amount ← amount
  let base ← base
  return "DATEADD('" ++ unit.keyword ++ "', " ++ amount ++ ", " ++ base ++ ")"

/-- H2 numbers the days of the week as the standard does. -/
def dayOfWeek : Operation := .around "ISO_DAY_OF_WEEK(" ")"

/-- Only the time zone is set. -/
def sessionSetup (options : SessionOptions) : List String :=
  match options.timeZone with
  | some zone => ["SET TIME ZONE " ++ quoteString zone]
  | none => []

/-- The dialect of H2. -/
def dialect : Dialect where
  truncate := some truncate
  extract := some extract
  intervalAdd := some intervalAdd
  dayOfWeek := some dayOfWeek
  sessionSetup := some sessionSetup

/-- The driver of H2. -/
def descriptor : Descriptor where
  id := id
  displayName := "H2"
  parent := some Ansi.id
  capabilities := {
    fullJoin := some false
    regex := some true
    percentileAggregations := some true
    actions := some true
    integralIntervals := some true }
  types := [("CHARACTER VARYING", .text), ("CHARACTER LARGE OBJECT", .text),
    ("VARCHAR_IGNORECASE", .text), ("ENUM", .text), ("TINYINT", .integer), ("DECFLOAT", .decimal),
    ("BINARY VARYING", .other), ("JAVA_OBJECT", .other), ("GEOMETRY", .other)]
  casts := [(.uuid, "UUID"), (.text, "CHARACTER VARYING")]
  dialect := dialect
  adminUser := some "sa"
  safeOptions := [.force "ACCESS_MODE_DATA" "r", .force "IFEXISTS" "TRUE", .strip "INIT"]
  parser := some (.ofRecognizer "h2" (Sql.recognize .generic))
  patterns := [
    ⟨.literalAnyCase "implicitly relative to the current working directory", .relativePath⟩,
    ⟨.both (.literal "Database \"") (.both (.without '"') (.literal "\" not found")),
      .missingDatabase⟩,
    ⟨.literal "Wrong user name or password", .badCredentials⟩]

end Sluice.H2
