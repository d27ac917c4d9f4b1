import Sluice.Sql.Rule

/-!
# Data types

A data type is one of the known names with its own continuation, or any other name. Modifiers in
parentheses and array marks may follow.
-/

namespace Sluice.Sql.Grammar

open Rule

def modifiers : Rule Unit := do
  if ← acceptsSymbol "(" then
    repeated (tried (token fun
      | .word _ _ | .quotedName | .number | .string | .symbol "," => true
      | _ => false))
    symbol ")"

/-- Names of types that may stand before a string to make a literal. -/
def knownTypes : List String :=
  ["BOOLEAN", "BOOL", "FLOAT", "REAL", "FLOAT4", "FLOAT8", "FLOAT32", "FLOAT64", "DOUBLE",
    "TINYINT", "INT2", "SMALLINT", "MEDIUMINT", "INT", "INT4", "INT8", "INT16", "INT32", "INT64",
    "INT128", "INT256", "INTEGER", "BIGINT", "UINT8", "UINT16", "UINT32", "UINT64", "UINT128",
    "UINT256", "VARCHAR", "NVARCHAR", "CHARACTER", "CHAR", "CLOB", "BINARY", "VARBINARY", "BLOB",
    "TINYBLOB", "MEDIUMBLOB", "LONGBLOB", "BYTES", "BIT", "UUID", "DATE", "DATE32", "DATETIME",
    "DATETIME64", "TIMESTAMP", "TIMESTAMPTZ", "TIME", "TIMETZ", "JSON", "JSONB", "REGCLASS",
    "STRING", "FIXEDSTRING", "TEXT", "TINYTEXT", "MEDIUMTEXT", "LONGTEXT", "BYTEA", "NUMERIC",
    "DECIMAL", "DEC", "BIGNUMERIC", "BIGDECIMAL", "TRIGGER"]

/-- `WITH TIME ZONE` or `WITHOUT TIME ZONE`, if it comes next. -/
def timeZone : Rule Unit := do
  if ← acceptsAny ["WITH", "WITHOUT"] then keywords ["TIME", "ZONE"]

/-- What may follow a known name. -/
def typeTail : String → Rule Unit
  | "DOUBLE" => optional (keyword "PRECISION")
  | "CHARACTER" | "CHAR" => do
    let _ ← accepts "VARYING" <||> acceptsAll ["LARGE", "OBJECT"]
    modifiers
  | "BIT" => do
    let _ ← accepts "VARYING"
    modifiers
  | "TIMESTAMP" | "TIME" => do
    modifiers
    timeZone
  | "TINYINT" | "INT2" | "SMALLINT" | "MEDIUMINT" | "INT" | "INT4" | "INT8" | "INTEGER"
  | "BIGINT" => do
    modifiers
    optional (keyword "UNSIGNED")
  | _ => modifiers

def arrayMarks : Rule Unit :=
  repeated (tried do
    symbol "["
    optional (token (· = .number))
    symbol "]")

def knownType : Rule Unit := do
  let upper ← peekWord
  guard (knownTypes.contains upper)
  let _ ← next
  typeTail upper
  arrayMarks

def dataType : Rule Unit := do
  if knownTypes.contains (← peekWord) then knownType
  else
    objectName
    modifiers
    arrayMarks

end Sluice.Sql.Grammar
