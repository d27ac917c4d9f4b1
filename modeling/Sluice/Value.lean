import Sluice.Binary64.Shortest
import Sluice.Calendar.Text
import Sluice.Int64
import Sluice.SemanticType

/-!
# Values

A value is a bound parameter or a cell of a result. Decimals keep their text, so no digit is
lost; points in time are kept in universal time.
-/

namespace Sluice

inductive Value where
  | null
  | bool (b : Bool)
  | int (n : Int64)
  | float (x : Binary64)
  | decimal (digits : String)
  | text (s : String)
  | bytes (bs : List UInt8)
  | date (d : Date)
  | time (t : TimeOfDay)
  | dateTime (t : DateTime)
  | instant (utc : DateTime)
deriving DecidableEq, Inhabited

namespace Value

/-- Read a signed 64-bit integer: an optional sign and digits, nothing else. -/
def parseInt64? (s : String) : Option Int64 :=
  let (negative, digits) :=
    match s.toList with
    | '-' :: rest => (true, rest)
    | '+' :: rest => (false, rest)
    | cs => (false, cs)
  if digits.isEmpty || !digits.all Char.isDigit then none
  else
    let n : Int := digits.foldl (fun n c => n * 10 + (c.toNat - '0'.toNat)) 0
    int64? (if negative then -n else n)

def isNull : Value → Bool
  | null => true
  | _ => false

def toText? : Value → Option String
  | text s => some s
  | _ => none

/-- The integer of an integer, or of a text that spells one. -/
def toInt? : Value → Option Int64
  | int n => some n
  | text s => parseInt64? s
  | _ => none

/-- The numeric view of intervals: integers, rounded to a float, and floats. -/
def toFloat? : Value → Option Binary64
  | int n => some (.ofInt n.toInt)
  | float x => some x
  | _ => none

/-- The semantic type of a value; null has none. -/
def semanticType : Value → SemanticType
  | null => .other
  | bool _ => .boolean
  | int _ => .bigInteger
  | float _ => .float
  | decimal _ => .decimal
  | text _ => .text
  | bytes _ => .other
  | date _ => .date
  | time _ => .time
  | dateTime _ => .dateTime
  | instant _ => .dateTimeWithZone

def render : Value → String
  | null => "NULL"
  | bool b => if b then "true" else "false"
  | int n => toString n.toInt
  | float x => toString x
  | decimal digits => digits
  | text s => s
  | bytes bs => "<" ++ toString bs.length ++ " bytes>"
  | date d => d.render
  | time t => t.render
  | dateTime t => t.render " "
  | instant t => t.render " " ++ " UTC"

end Value

end Sluice
