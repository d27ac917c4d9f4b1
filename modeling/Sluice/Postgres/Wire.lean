import Sluice.Binary32
import Sluice.Bytes
import Sluice.Calendar.Timestamp
import Sluice.Error
import Sluice.Postgres.Numeric
import Sluice.Text.Utf8
import Sluice.Uuid
import Sluice.Value

/-!
# Values in binary

A parameter is first fitted to the type of its slot, where that is possible, and then sent in the
binary form of what it has become. A cell of a result is read in the binary form of its column's
type; types without a reader of their own arrive as text.
-/

namespace Sluice.Postgres

/-- Day number of 2000-01-01, where dates and timestamps begin. -/
def epochDay : Int := 10957

/-! ## Parameters -/

inductive Parameter where
  | null
  | bool (b : Bool)
  /-- An integer of two, four or eight bytes. -/
  | int (width : Nat) (n : Int)
  | float32 (x : Binary32)
  | float64 (x : Binary64)
  | text (s : String)
  | bytes (bs : List UInt8)
  | uuid (u : Uuid)
  | date (d : Date)
  | time (t : TimeOfDay)
  | dateTime (t : DateTime)
  | instant (utc : DateTime)
deriving DecidableEq

namespace Parameter

/-- The parameter for a value by the value's own kind. -/
def ofValue : Value → Parameter
  | .null => null
  | .bool b => bool b
  | .int n => int 8 n.toInt
  | .float x => float64 x
  | .decimal s => text s
  | .text s => text s
  | .bytes bs => bytes bs
  | .date d => date d
  | .time t => time t
  | .dateTime t => dateTime t
  | .instant t => instant t

/-- An integer of a width, if it fits. -/
def fit? (width : Nat) (n : Int) : Option Parameter :=
  let bound := Nat.pow 2 (8 * width - 1)
  if -(bound : Int) ≤ n && n < bound then some (int width n) else none

def ofText? (type s : String) : Option Parameter :=
  match type with
  | "bool" =>
    if s = "true" then some (bool true) else if s = "false" then some (bool false) else none
  | "int2" => (Value.parseInt64? s).bind fun n => fit? 2 n.toInt
  | "int4" => (Value.parseInt64? s).bind fun n => fit? 4 n.toInt
  | "int8" => (Value.parseInt64? s).map fun n => int 8 n.toInt
  | "float4" => (Binary32.parse? s).map float32
  | "float8" => (Binary64.parse? s).map float64
  | "uuid" => (Uuid.parse? s).map uuid
  | "date" => (Date.parse? s).map date
  | "time" => (TimeOfDay.parse? s).map time
  | "timestamp" => (DateTime.ofTimestamp? s).map dateTime
  | "timestamptz" => (DateTime.ofInstant? s).map instant
  | _ => none

/-- The parameter for a value in a slot: narrowed or read where slot and value allow it. -/
def forSlot (type : String) (v : Value) : Parameter :=
  match v, type with
  | .int n, "int2" => (fit? 2 n.toInt).getD (int 8 n.toInt)
  | .int n, "int4" => (fit? 4 n.toInt).getD (int 8 n.toInt)
  | .int n, "float8" => float64 (.ofInt n.toInt)
  | .float x, "float4" => float32 (.ofBinary64 x)
  | .instant t, "timestamp" => dateTime t
  | .dateTime t, "timestamptz" => instant t
  | .text s, type => (ofText? type s).getD (text s)
  | v, _ => ofValue v

/-- Microseconds from 2000-01-01 to a point in time, nanoseconds cut off towards zero. -/
def stampMicros (t : DateTime) : Int :=
  let seconds := (t.date.toDays - epochDay) * 86400 + t.time.second
  (seconds * 1000000000 + t.time.nano).tdiv 1000

/-- The bytes that are sent; null has none. -/
def encode : Parameter → Option (List UInt8)
  | null => none
  | bool b => some [if b then 1 else 0]
  | int width n => some (Bytes.ofInt width n)
  | float32 x => some (Bytes.ofNat 4 x.bits.toNat)
  | float64 x => some (Bytes.ofNat 8 x.bits.toNat)
  | text s => some (Text.utf8 s)
  | bytes bs => some bs
  | uuid u => some u.bytes
  | date d => some (Bytes.ofInt 4 (d.toDays - epochDay))
  | time t => some (Bytes.ofInt 8 t.toMicros)
  | dateTime t => some (Bytes.ofInt 8 (stampMicros t))
  | instant t => some (Bytes.ofInt 8 (stampMicros t))

end Parameter

/-- The parameters for values in slots; a value beyond the last slot goes by its own kind. -/
def parameters : (types : List String) → List Value → List Parameter
  | _, [] => []
  | [], v :: vs => .ofValue v :: parameters [] vs
  | type :: types, v :: vs => .forSlot type v :: parameters types vs

/-! ## Cells -/

/-- A point in time, if it lies in the supported years. -/
def stampOf? (micros : Int) : Option DateTime :=
  let t := DateTime.ofMicros epochDay micros
  if t.date.isSupported then some t else none

/-- Read a cell of a column's type. -/
def decodeCell? (type : String) (raw : List UInt8) : Option Value :=
  match type with
  | "bool" =>
    match raw with
    | [b] => some (.bool (b ≠ 0))
    | _ => none
  | "int2" => (Bytes.toInt? 2 raw).map fun n => .int (.ofInt n)
  | "int4" => (Bytes.toInt? 4 raw).map fun n => .int (.ofInt n)
  | "int8" => (Bytes.toInt? 8 raw).map fun n => .int (.ofInt n)
  | "float4" =>
    if raw.length = 4 then some (.float (Binary32.toBinary64 ⟨UInt32.ofNat (Bytes.toNat raw)⟩))
    else none
  | "float8" => if raw.length = 8 then some (.float ⟨UInt64.ofNat (Bytes.toNat raw)⟩) else none
  | "numeric" => (Numeric.decode? raw).map .decimal
  | "bytea" => some (.bytes raw)
  | "uuid" => if raw.length = 16 then some (.text (Uuid.render ⟨raw⟩)) else none
  | "date" => do
    let date := Date.ofDays (epochDay + (← Bytes.toInt? 4 raw))
    if date.isSupported then some (.date date) else none
  | "time" =>
    (Bytes.toInt? 8 raw).map fun n => .time (DateTime.ofMicros epochDay n).time
  | "timestamp" => ((Bytes.toInt? 8 raw).bind stampOf?).map .dateTime
  | "timestamptz" => ((Bytes.toInt? 8 raw).bind stampOf?).map .instant
  | _ => some (.text (Text.ofUtf8Lossy raw))

/-- Read the cells of a row, up to the first that does not fit its column. -/
def decodeRow (index : Nat) :
    (types : List String) → List (Option (List UInt8)) → Except Error (List Value)
  | [], _ => .ok []
  | _, [] => .ok []
  | type :: types, cell :: cells =>
    match cell.map (decodeCell? type) with
    | some none => .error (.query (.readColumn index))
    | some (some v) => (decodeRow (index + 1) types cells).map (v :: ·)
    | none => (decodeRow (index + 1) types cells).map (Value.null :: ·)

end Sluice.Postgres
