import Sluice.Driver
import Sluice.Sql.Recognize

/-!
# Standard SQL

The root of every chain. It fills every slot with the standard's own notation, so a backend needs
to say only what it does differently.
-/

namespace Sluice.Ansi

/-- The identifier of the root driver. -/
def id : String := "sql"

def truncationName (unit : TruncateUnit) : Except Error String :=
  match unit with
  | .minute | .hour | .day | .week | .month | .quarter | .year => .ok unit.name
  | unit => .error (.translation (.extractionUnit unit))

/-- `DATE_TRUNC`, for the units that truncate. -/
def truncate (unit : TruncateUnit) : Operation := fun operand => do
  let name ← truncationName unit
  Operation.around ("DATE_TRUNC('" ++ name ++ "', ") ")" operand

/-- `EXTRACT`. -/
def extract (field : DateField) : Operation :=
  .around ("EXTRACT(" ++ field.keyword ++ " FROM ") ")"

/-- The field `DOW` numbers Sunday as 0. -/
def dayOfWeek : Operation :=
  .around "(MOD(CAST(EXTRACT(DOW FROM " ") AS INTEGER) + 6, 7) + 1)"

def oneInterval : IntervalUnit → String
  | .millisecond => "INTERVAL '0.001' SECOND"
  | unit => "INTERVAL '1' " ++ unit.keyword

/-- The amount times one of the unit, added. -/
def intervalAdd (unit : IntervalUnit) (amount base : TranslateM String) : TranslateM String := do
  let base ← base
  let amount ← amount
  return "(" ++ base ++ " + (" ++ amount ++ ") * " ++ oneInterval unit ++ ")"

/-- `CAST`. -/
def cast (name : String) : Operation := .around "CAST(" (" AS " ++ name ++ ")")

/-- `REGEXP_LIKE`. -/
def regexMatch (text pattern : String) : String :=
  "REGEXP_LIKE(" ++ text ++ ", " ++ pattern ++ ")"

def dialect : Dialect where
  truncate := some truncate
  extract := some extract
  intervalAdd := some intervalAdd
  dayOfWeek := some dayOfWeek
  cast := some cast
  placeholder := some fun _ => "?"
  quoteIdentifier := some quoteName
  regexMatch := some regexMatch
  sessionSetup := some fun _ => []

/-- The parser of a backend without one of its own. -/
def parser : StatementParser := .ofRecognizer "ansi" (Sql.recognize .generic)

def descriptor : Descriptor where
  id := id
  displayName := "ANSI SQL"
  capabilities := { fullJoin := some true }
  casts := [(.integer, "INTEGER"), (.bigInteger, "BIGINT"), (.float, "DOUBLE PRECISION"),
    (.decimal, "DECIMAL"), (.boolean, "BOOLEAN"), (.text, "VARCHAR"), (.date, "DATE"),
    (.time, "TIME"), (.dateTime, "TIMESTAMP"), (.dateTimeWithZone, "TIMESTAMP WITH TIME ZONE")]
  dialect := dialect
  parser := some parser

theorem dialect_isComplete : dialect.missingSlots = [] := rfl

end Sluice.Ansi
