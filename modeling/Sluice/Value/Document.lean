import Sluice.Json.Record
import Sluice.Value

/-!
# Values in documents

A value is an object with one field, named for the kind of the value; null is the bare name
`"Null"`.
-/

namespace Sluice.Value

def toJson : Value → Json
  | null => .str "Null"
  | bool b => .obj [("Bool", .bool b)]
  | int n => .obj [("Int64", .int n.toInt)]
  | float x => .obj [("Float64", .float x)]
  | decimal digits => .obj [("Decimal", .str digits)]
  | text s => .obj [("String", .str s)]
  | bytes bs => .obj [("Bytes", .arr (bs.map fun b => .int b.toNat))]
  | date d => .obj [("Date", .str d.render)]
  | time t => .obj [("Time", .str t.render)]
  | dateTime t => .obj [("DateTime", .str (t.render "T"))]
  | instant t => .obj [("DateTimeUtc", .str (t.render "T" ++ "Z"))]

def ofJson? : Json → Option Value
  | .str "Null" => some null
  | .obj [(kind, j)] =>
    match kind with
    | "Null" => match j with
      | .null => some null
      | _ => none
    | "Bool" => j.toBool?.map bool
    | "Int64" => j.toInt64?.map int
    | "Float64" => j.toFloat?.map float
    | "Decimal" => j.toText?.map decimal
    | "String" => j.toText?.map text
    | "Bytes" => (j.toListOf? Json.toByte?).map bytes
    | "Date" => (j.toText?.bind Date.parse?).map date
    | "Time" => (j.toText?.bind TimeOfDay.parse?).map time
    | "DateTime" => (j.toText?.bind DateTime.parse?).map dateTime
    | "DateTimeUtc" => (j.toText?.bind DateTime.parseUtc?).map instant
    | _ => none
  | _ => none

end Sluice.Value
