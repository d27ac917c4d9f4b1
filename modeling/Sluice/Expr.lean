import Sluice.Value

/-!
# Expressions

Backend-independent expression trees and the vocabularies they use: units of truncation, units
of intervals, and binary operators.
-/

namespace Sluice

/-- A field of a point in time that can be extracted as a number. -/
inductive DateField where
  | minute | hour | day | month | quarter | year
deriving DecidableEq, Inhabited

namespace DateField

/-- All fields, finest first. -/
def all : List DateField := [minute, hour, day, month, quarter, year]

def keyword : DateField → String
  | minute => "MINUTE" | hour => "HOUR" | day => "DAY" | month => "MONTH"
  | quarter => "QUARTER" | year => "YEAR"

def name : DateField → String
  | minute => "minute" | hour => "hour" | day => "day" | month => "month"
  | quarter => "quarter" | year => "year"

def ofName? (s : String) : Option DateField := all.find? (·.name == s)

end DateField

/-- What a point in time is cut to: a coarser point in time, or one of its parts as a number. -/
inductive TruncateUnit where
  | minute | hour | day | week | month | quarter | year
  | minuteOfHour | hourOfDay | dayOfWeek | dayOfMonth | monthOfYear | quarterOfYear
deriving DecidableEq, Inhabited

namespace TruncateUnit

def all : List TruncateUnit :=
  [minute, hour, day, week, month, quarter, year, minuteOfHour, hourOfDay, dayOfWeek, dayOfMonth,
    monthOfYear, quarterOfYear]

def name : TruncateUnit → String
  | minute => "minute" | hour => "hour" | day => "day" | week => "week" | month => "month"
  | quarter => "quarter" | year => "year" | minuteOfHour => "minute-of-hour"
  | hourOfDay => "hour-of-day" | dayOfWeek => "day-of-week" | dayOfMonth => "day-of-month"
  | monthOfYear => "month-of-year" | quarterOfYear => "quarter-of-year"

/-- The unit's name in messages. -/
def label : TruncateUnit → String
  | minute => "Minute" | hour => "Hour" | day => "Day" | week => "Week" | month => "Month"
  | quarter => "Quarter" | year => "Year" | minuteOfHour => "MinuteOfHour"
  | hourOfDay => "HourOfDay" | dayOfWeek => "DayOfWeek" | dayOfMonth => "DayOfMonth"
  | monthOfYear => "MonthOfYear" | quarterOfYear => "QuarterOfYear"

def ofName? (s : String) : Option TruncateUnit := all.find? (·.name == s)

theorem ofName?_name (u : TruncateUnit) : ofName? u.name = some u := by
  cases u <;> rfl

/-- The field to extract, for the units that number a part; the day of the week has its own
operation. -/
def extractionField? : TruncateUnit → Option DateField
  | minuteOfHour => some .minute
  | hourOfDay => some .hour
  | dayOfMonth => some .day
  | monthOfYear => some .month
  | quarterOfYear => some .quarter
  | _ => none

end TruncateUnit

inductive IntervalUnit where
  | millisecond | second | minute | hour | day | week | month | quarter | year
deriving DecidableEq, Inhabited

namespace IntervalUnit

/-- All units, finest first. -/
def all : List IntervalUnit :=
  [millisecond, second, minute, hour, day, week, month, quarter, year]

def keyword : IntervalUnit → String
  | millisecond => "MILLISECOND" | second => "SECOND" | minute => "MINUTE" | hour => "HOUR"
  | day => "DAY" | week => "WEEK" | month => "MONTH" | quarter => "QUARTER" | year => "YEAR"

/-- The unit's name in documents and messages. -/
def name : IntervalUnit → String
  | millisecond => "millisecond" | second => "second" | minute => "minute" | hour => "hour"
  | day => "day" | week => "week" | month => "month" | quarter => "quarter" | year => "year"

def ofName? (s : String) : Option IntervalUnit := all.find? (·.name == s)

theorem ofName?_name (u : IntervalUnit) : ofName? u.name = some u := by
  cases u <;> rfl

/-- The next finer unit and how many of it make one. A month has no fixed number of days. -/
def finer? : IntervalUnit → Option (IntervalUnit × Nat)
  | year => some (month, 12)
  | quarter => some (month, 3)
  | week => some (day, 7)
  | day => some (hour, 24)
  | hour => some (minute, 60)
  | minute => some (second, 60)
  | second => some (millisecond, 1000)
  | month | millisecond => none

/-- How many steps to finer units remain. -/
def depth : IntervalUnit → Nat
  | millisecond | month => 0
  | second | quarter | year => 1
  | minute => 2
  | hour => 3
  | day => 4
  | week => 5

theorem depth_of_finer? {u v : IntervalUnit} {k : Nat} (h : u.finer? = some (v, k)) :
    v.depth < u.depth := by
  cases u <;> cases v <;> simp_all [finer?, depth]

end IntervalUnit

inductive BinaryOperator where
  | eq | notEq | lt | ltEq | gt | gtEq | and | or | plus | minus | multiply | divide | modulo
  | concat | regexMatch
deriving DecidableEq, Inhabited

namespace BinaryOperator

def all : List BinaryOperator :=
  [eq, notEq, lt, ltEq, gt, gtEq, and, or, plus, minus, multiply, divide, modulo, concat,
    regexMatch]

def name : BinaryOperator → String
  | eq => "eq" | notEq => "not_eq" | lt => "lt" | ltEq => "lt_eq" | gt => "gt" | gtEq => "gt_eq"
  | and => "and" | or => "or" | plus => "plus" | minus => "minus" | multiply => "multiply"
  | divide => "divide" | modulo => "modulo" | concat => "concat" | regexMatch => "regex_match"

def ofName? (s : String) : Option BinaryOperator := all.find? (·.name == s)

theorem ofName?_name (op : BinaryOperator) : ofName? op.name = some op := by
  cases op <;> rfl

/-- The infix token; matching a regular expression has none. -/
def token? : BinaryOperator → Option String
  | eq => some "=" | notEq => some "<>" | lt => some "<" | ltEq => some "<=" | gt => some ">"
  | gtEq => some ">=" | and => some "AND" | or => some "OR" | plus => some "+"
  | minus => some "-" | multiply => some "*" | divide => some "/" | modulo => some "%"
  | concat => some "||" | regexMatch => none

end BinaryOperator

inductive Expr where
  | literal (value : Value)
  | column (table : Option String) (name : String)
  | truncate (unit : TruncateUnit) (expr : Expr)
  | intervalAdd (unit : IntervalUnit) (amount expr : Expr)
  | cast (target : SemanticType) (expr : Expr)
  | unary (function : String) (arg : Expr)
  | binary (op : BinaryOperator) (left right : Expr)
deriving DecidableEq, Inhabited

namespace Expr

def int (n : Int64) : Expr := literal (.int n)

/-- The numeric value of a literal amount; anything computed has none. -/
def toNumber? : Expr → Option Binary64
  | literal value => value.toFloat?
  | _ => none

end Expr

end Sluice
