/-!
# Semantic types

Every backend has its own vocabulary of column types; queries and results are described by this
small set instead.
-/

namespace Sluice

/-- Backend-independent classification of a column or value. -/
inductive SemanticType where
  | integer | bigInteger | float | decimal | boolean | text | date | time | dateTime
  | dateTimeWithZone | uuid | other
deriving DecidableEq, Inhabited

namespace SemanticType

def all : List SemanticType :=
  [integer, bigInteger, float, decimal, boolean, text, date, time, dateTime, dateTimeWithZone,
    uuid, other]

/-- The name shown to users and used in documents. -/
def name : SemanticType → String
  | integer => "Integer" | bigInteger => "BigInteger" | float => "Float" | decimal => "Decimal"
  | boolean => "Boolean" | text => "Text" | date => "Date" | time => "Time"
  | dateTime => "DateTime" | dateTimeWithZone => "DateTimeWithZone" | uuid => "Uuid"
  | other => "Other"

def ofName? (s : String) : Option SemanticType := all.find? (·.name == s)

theorem ofName?_name (t : SemanticType) : ofName? t.name = some t := by
  cases t <;> rfl

/-- Types whose values carry a date. -/
def isTemporal : SemanticType → Bool
  | date | dateTime | dateTimeWithZone => true
  | _ => false

def isNumeric : SemanticType → Bool
  | integer | bigInteger | float | decimal => true
  | _ => false

end SemanticType

end Sluice
