import Sluice.Driver
import Sluice.Int64

/-!
# Amounts of intervals

Before an interval is written, quarters become months and weeks become days. Drivers with integral
intervals get whole numbers: a literal amount that is not whole goes to finer units until it is,
and fails when no finer unit is left.
-/

namespace Sluice

inductive AmountForm where
  | same
  /-- Replaced by a literal. -/
  | literal (value : Value)
  /-- Multiplied by a factor when the statement runs. -/
  | times (factor : Int64)
deriving DecidableEq, Inhabited

namespace AmountForm

def apply : AmountForm → Expr → Expr
  | same, amount => amount
  | literal value, _ => .literal value
  | times factor, amount => .binary .multiply amount (.int factor)

end AmountForm

namespace Interval

/-- Multiply an amount: literals at once, anything else when the statement runs. -/
def scale (amount : Expr) (factor : Nat) : Except Error AmountForm :=
  match amount with
  | .literal (.int n) =>
    let product := n.toInt * factor
    match int64? product with
    | some scaled => .ok (.literal (.int scaled))
    | none => .error (.translation (.amountOutOfRange n))
  | .literal (.float x) => .ok (.literal (.float (x.mul (.ofInt factor))))
  | _ => .ok (.times (Int64.ofNat factor))

/-- Go to finer units until the amount is whole. -/
def wholeAmount (driver : String) (unit : IntervalUnit) (amount : Binary64) :
    Except Error (IntervalUnit × Int64) :=
  match amount.toWhole? with
  | some n => .ok (unit, Int64.ofInt n)
  | none =>
    match _finer : unit.finer? with
    | some (finer, factor) => wholeAmount driver finer (amount.mul (.ofInt factor))
    | none => .error (.translation (.fractionalAmount driver unit amount))
termination_by unit.depth
decreasing_by exact IntervalUnit.depth_of_finer? _finer

/-- Quarters become months and weeks become days. -/
def plainForm (unit : IntervalUnit) (amount : Expr) : Except Error (IntervalUnit × AmountForm) :=
  match unit with
  | .quarter => (scale amount 3).map fun form => (.month, form)
  | .week => (scale amount 7).map fun form => (.day, form)
  | unit => .ok (unit, .same)

/-- The form for a driver with integral intervals. Computed seconds become milliseconds, because
they may turn out to have a fraction. -/
def integralForm (driver : String) (amount : Expr) (unit : IntervalUnit) (form : AmountForm) :
    Except Error (IntervalUnit × AmountForm) :=
  match (form.apply amount).toNumber? with
  | some x => (wholeAmount driver unit x).map fun (unit, n) => (unit, .literal (.int n))
  | none =>
    if unit = .second then (scale amount 1000).map fun form => (.millisecond, form)
    else .ok (unit, form)

/-- The unit and the form in which a driver gets an amount. -/
def normalForm (driver : Driver) (unit : IntervalUnit) (amount : Expr) :
    Except Error (IntervalUnit × AmountForm) := do
  let (unit, form) ← plainForm unit amount
  if driver.capability .integralIntervals then integralForm driver.displayName amount unit form
  else return (unit, form)

def normalize (driver : Driver) (unit : IntervalUnit) (amount : Expr) :
    Except Error (IntervalUnit × Expr) :=
  (normalForm driver unit amount).map fun (unit, form) => (unit, form.apply amount)

end Interval

/-! ## Quarters -/

/-- The first month of the quarter that contains a month. In 32 bits the sum leaves the range for
the two largest numbers, and the difference for zero. -/
def quarterStartMonth (month : UInt32) : UInt32 := (month + 2) / 3 * 3 - 2

/-- The key `yyyyMM` of the first month of a quarter. A sign takes one of the year's places. -/
def quarterStartKey (year : Int32) (month : UInt32) : String :=
  let digits := year.toInt.natAbs
  let text := if year < 0 then "-" ++ padded 3 digits else padded 4 digits
  text ++ padded 2 (quarterStartMonth month).toNat

end Sluice
