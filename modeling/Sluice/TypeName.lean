import Sluice.SemanticType
import Sluice.Text.Blank
import Sluice.Text.Upper

/-!
# Native type names

Backends report column types as `varchar(255)` or `timestamp (6)  without time zone`. A name is
normalised by dropping parameter lists, collapsing blanks and upper-casing; the normal form is
what tables of types are keyed by.
-/

namespace Sluice.TypeName

open Text

/-- Drop everything in parentheses; `depth` counts the open ones and never falls below zero. -/
def dropParameters (depth : Nat) : List Char → List Char
  | [] => []
  | '(' :: rest => dropParameters (depth + 1) rest
  | ')' :: rest => dropParameters (depth - 1) rest
  | c :: rest => if depth = 0 then c :: dropParameters depth rest else dropParameters depth rest

def joinWords : List (List Char) → List Char
  | [] => []
  | [w] => w
  | w :: rest => w ++ ' ' :: joinWords rest

def normalize (name : String) : String :=
  String.ofList (upper (joinWords (words (dropParameters 0 name.toList))))

/-- Whether a normal form names an array type. -/
def isArray (normal : String) : Bool :=
  let reversed := normal.toList.reverse
  "][".toList.isPrefixOf reversed || "YARRA ".toList.isPrefixOf reversed

/-- The names that most backends share. -/
def common : List (String × SemanticType) := [
  ("INTEGER", .integer), ("INT", .integer), ("INT4", .integer), ("SMALLINT", .integer),
  ("INT2", .integer), ("TINYINT", .integer), ("BIGINT", .bigInteger), ("INT8", .bigInteger),
  ("BOOLEAN", .boolean), ("BOOL", .boolean), ("BIT", .boolean),
  ("VARCHAR", .text), ("CHAR", .text), ("CHARACTER", .text), ("CHARACTER VARYING", .text),
  ("VARCHAR_IGNORECASE", .text), ("TEXT", .text), ("CLOB", .text),
  ("TIMESTAMP", .dateTime), ("DATETIME", .dateTime), ("TIMESTAMP WITHOUT TIME ZONE", .dateTime),
  ("TIMESTAMP WITH TIME ZONE", .dateTimeWithZone), ("TIMESTAMPTZ", .dateTimeWithZone),
  ("DOUBLE PRECISION", .float), ("DOUBLE", .float), ("REAL", .float), ("FLOAT", .float),
  ("FLOAT4", .float), ("FLOAT8", .float),
  ("DECIMAL", .decimal), ("NUMERIC", .decimal), ("NUMBER", .decimal),
  ("DATE", .date), ("TIME", .time), ("TIME WITHOUT TIME ZONE", .time), ("UUID", .uuid),
  ("BLOB", .other), ("BINARY", .other), ("VARBINARY", .other), ("ARRAY", .other),
  ("GEOMETRY", .other), ("OTHER", .other), ("JAVA_OBJECT", .other)]

/-- The type of a normal form, if it is an array or a shared name. -/
def lookup? (normal : String) : Option SemanticType :=
  if isArray normal then some .other else common.lookup normal

/-- The type of a name by the shared names alone. -/
def semanticType (name : String) : SemanticType :=
  (lookup? (normalize name)).getD .other

end Sluice.TypeName
