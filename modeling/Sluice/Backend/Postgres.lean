import Sluice.Backend.Ansi

/-!
# PostgreSQL

PostgreSQL understands the standard's truncation and intervals. Placeholders are numbered, regular
expressions have an operator, and extracted fields are cast to integers.
-/

namespace Sluice.Postgres

def id : String := "postgres"

/-- `EXTRACT`, cast because it yields a numeric. -/
def extract (field : DateField) : Operation :=
  .around ("CAST(EXTRACT(" ++ field.keyword ++ " FROM ") ") AS INTEGER)"

/-- The field `ISODOW` numbers Monday as 1. -/
def dayOfWeek : Operation := .around "CAST(EXTRACT(ISODOW FROM " ") AS INTEGER)"

/-- A dollar sign and the number of the parameter. -/
def placeholder (index : Nat) : String := "$" ++ toString index

def regexMatch (text pattern : String) : String := "(" ++ text ++ " ~ " ++ pattern ++ ")"

/-- Read-only transactions and a time zone. -/
def sessionSetup (options : SessionOptions) : List String :=
  (if options.readOnly then ["SET SESSION CHARACTERISTICS AS TRANSACTION READ ONLY"] else []) ++
    match options.timeZone with
    | some zone => ["SET TIME ZONE " ++ quoteString zone]
    | none => []

def dialect : Dialect where
  extract := some extract
  dayOfWeek := some dayOfWeek
  placeholder := some placeholder
  regexMatch := some regexMatch
  sessionSetup := some sessionSetup

/-- The driver of PostgreSQL; its types have the names that the server reports. -/
def descriptor : Descriptor where
  id := id
  displayName := "PostgreSQL"
  parent := some Ansi.id
  capabilities := {
    regex := some true, percentileAggregations := some true, actions := some true }
  types := [("INT2", .integer), ("INT4", .integer), ("INT8", .bigInteger), ("FLOAT4", .float),
    ("FLOAT8", .float), ("BPCHAR", .text), ("NAME", .text), ("CITEXT", .text), ("JSONB", .other),
    ("BYTEA", .other)]
  casts := [(.text, "TEXT"), (.uuid, "UUID"), (.dateTimeWithZone, "TIMESTAMPTZ")]
  dialect := dialect
  parser := some (.ofRecognizer "postgres" (Sql.recognize .postgres))
  patterns := [
    ⟨.literal "password authentication failed for user", .badCredentials⟩,
    ⟨.both (.literal "database \"") (.both (.without '"') (.literal "\" does not exist")),
      .missingDatabase⟩]

end Sluice.Postgres
