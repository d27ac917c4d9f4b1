/-!
# Dates and times of day

Dates are proleptic Gregorian with an astronomical year; a time of day counts seconds since
midnight and nanoseconds, and a leap second is the last second of a minute with a billion
nanoseconds or more. Day numbers count from 1970-01-01.
-/

namespace Sluice

structure Date where
  year : Int
  month : Nat
  day : Nat
deriving DecidableEq, Inhabited

structure TimeOfDay where
  /-- Seconds since midnight, below 86400. -/
  second : Nat
  /-- Nanoseconds, below two billion; from one billion on they belong to a leap second. -/
  nano : Nat
deriving DecidableEq, Inhabited

/-- A date and a time of day without a zone. -/
structure DateTime where
  date : Date
  time : TimeOfDay
deriving DecidableEq, Inhabited

namespace Date

/-- Leap years of the Gregorian calendar. -/
def isLeapYear (y : Int) : Bool :=
  y % 4 = 0 && (y % 100 ≠ 0 || y % 400 = 0)

def daysInMonth (y : Int) (m : Nat) : Nat :=
  if m = 2 then (if isLeapYear y then 29 else 28)
  else if m = 4 || m = 6 || m = 9 || m = 11 then 30
  else 31

/-- The date with the given parts, if there is one within the supported years. -/
def ofCivil? (year : Int) (month day : Nat) : Option Date :=
  if -262143 ≤ year && year ≤ 262142 && 1 ≤ month && month ≤ 12 && 1 ≤ day &&
      day ≤ daysInMonth year month then
    some ⟨year, month, day⟩
  else none

/-- Days since 1970-01-01. Years begin in March here, so that leap days end a year. -/
def toDays (d : Date) : Int :=
  let y : Int := if d.month ≤ 2 then d.year - 1 else d.year
  let m : Int := if d.month ≤ 2 then d.month + 9 else (d.month : Int) - 3
  let era := y.fdiv 400
  let yearOfEra := y - era * 400
  let dayOfYear := (153 * m + 2) / 5 + d.day - 1
  let dayOfEra := yearOfEra * 365 + yearOfEra / 4 - yearOfEra / 100 + dayOfYear
  era * 146097 + dayOfEra - 719468

def ofDays (n : Int) : Date :=
  let z := n + 719468
  let era := z.fdiv 146097
  let dayOfEra := z - era * 146097
  let yearOfEra := (dayOfEra - dayOfEra / 1460 + dayOfEra / 36524 - dayOfEra / 146096) / 365
  let dayOfYear := dayOfEra - (365 * yearOfEra + yearOfEra / 4 - yearOfEra / 100)
  let mp := (5 * dayOfYear + 2) / 153
  let day := dayOfYear - (153 * mp + 2) / 5 + 1
  let month := if mp < 10 then mp + 3 else mp - 9
  let year := yearOfEra + era * 400 + (if month ≤ 2 then 1 else 0)
  ⟨year, month.toNat, day.toNat⟩

/-- Whether a date lies in the supported years. -/
def isSupported (d : Date) : Bool := -262143 ≤ d.year && d.year ≤ 262142

example : toDays ⟨1970, 1, 1⟩ = 0 ∧ toDays ⟨2000, 1, 1⟩ = 10957 ∧ toDays ⟨0, 3, 1⟩ = -719468 := by
  decide
example : ofDays 10957 = ⟨2000, 1, 1⟩ ∧ ofDays (-719469) = ⟨0, 2, 29⟩ := by decide

end Date

namespace TimeOfDay

/-- The time with the given parts; a sixtieth second is a leap second. -/
def ofParts? (hour minute second nano : Nat) : Option TimeOfDay :=
  if 23 < hour || 59 < minute || 60 < second || 999999999 < nano then none
  else if second = 60 then some ⟨hour * 3600 + minute * 60 + 59, nano + 1000000000⟩
  else some ⟨hour * 3600 + minute * 60 + second, nano⟩

/-- Microseconds since midnight, nanoseconds cut off. -/
def toMicros (t : TimeOfDay) : Nat := t.second * 1000000 + t.nano / 1000

end TimeOfDay

namespace DateTime

/-- Move by whole seconds; a leap second keeps its nanoseconds. -/
def addSeconds (t : DateTime) (n : Int) : DateTime :=
  let total := (t.time.second : Int) + n
  ⟨Date.ofDays (t.date.toDays + total.fdiv 86400), ⟨(total.fmod 86400).toNat, t.time.nano⟩⟩

/-- Microseconds since midnight of a given day number, nanoseconds cut off. -/
def toMicros (t : DateTime) (epochDay : Int) : Int :=
  (t.date.toDays - epochDay) * 86400000000 + t.time.toMicros

/-- The date and time that many microseconds after midnight of a day number. -/
def ofMicros (epochDay micros : Int) : DateTime :=
  let day := micros.fdiv 86400000000
  let rest := (micros.fmod 86400000000).toNat
  ⟨Date.ofDays (epochDay + day), ⟨rest / 1000000, rest % 1000000 * 1000⟩⟩

end DateTime

/-! ## Days of the week -/

inductive Weekday where
  | monday | tuesday | wednesday | thursday | friday | saturday | sunday
deriving DecidableEq, Inhabited

namespace Weekday

/-- All days, Monday first. -/
def all : List Weekday := [monday, tuesday, wednesday, thursday, friday, saturday, sunday]

/-- Position in the week, Monday being 1. -/
def number : Weekday → Nat
  | monday => 1 | tuesday => 2 | wednesday => 3 | thursday => 4
  | friday => 5 | saturday => 6 | sunday => 7

/-- Full English name in lower case. -/
def name : Weekday → String
  | monday => "monday" | tuesday => "tuesday" | wednesday => "wednesday"
  | thursday => "thursday" | friday => "friday" | saturday => "saturday" | sunday => "sunday"

def shortName : Weekday → String
  | monday => "Mon" | tuesday => "Tue" | wednesday => "Wed"
  | thursday => "Thu" | friday => "Fri" | saturday => "Sat" | sunday => "Sun"

/-- The day of the week of a day number; day 0 was a Thursday. -/
def ofDays (n : Int) : Weekday :=
  match ((n + 3).fmod 7).toNat with
  | 0 => monday | 1 => tuesday | 2 => wednesday | 3 => thursday
  | 4 => friday | 5 => saturday | _ => sunday

end Weekday

end Sluice
