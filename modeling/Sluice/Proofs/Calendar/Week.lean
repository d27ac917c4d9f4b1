import Sluice.Calendar

/-!
# Weeks

Points in time are nanoseconds since the start of day 0. A week has a day that it starts with, and
every point in time lies in the week of the latest such day on or before it.
-/

namespace Sluice

namespace Weekday

theorem number_pos (w : Weekday) : 1 ≤ w.number := by
  cases w <;> decide

theorem number_le (w : Weekday) : w.number ≤ 7 := by
  cases w <;> decide

theorem number_injective {v w : Weekday} (h : v.number = w.number) : v = w := by
  cases v <;> cases w <;> first | rfl | exact nomatch h

theorem number_ofDays (n : Int) : ((ofDays n).number : Int) = (n + 3) % 7 + 1 := by
  have hrange : (n + 3) % 7 = 0 ∨ (n + 3) % 7 = 1 ∨ (n + 3) % 7 = 2 ∨ (n + 3) % 7 = 3 ∨
      (n + 3) % 7 = 4 ∨ (n + 3) % 7 = 5 ∨ (n + 3) % 7 = 6 := by omega
  rw [ofDays, Int.fmod_eq_emod_of_nonneg _ (by decide)]
  rcases hrange with h | h | h | h | h | h | h <;> rw [h] <;> rfl

theorem ofDays_eq_iff {n : Int} {w : Weekday} : ofDays n = w ↔ (n + 3) % 7 + 1 = w.number := by
  rw [← number_ofDays]
  constructor
  · rintro rfl
    rfl
  · intro h
    exact number_injective (by omega)

end Weekday

namespace Week

/-! ## Days -/

/-- The nanoseconds of a day. -/
def dayLength : Int := 86400000000000

/-- The day of a point in time. -/
def dayOf (x : Int) : Int := x / dayLength

/-- The start of a day. -/
def midnight (day : Int) : Int := day * dayLength

theorem dayOf_midnight (day : Int) : dayOf (midnight day) = day :=
  Int.mul_ediv_cancel day (by decide)

theorem midnight_le_iff {day x : Int} : midnight day ≤ x ↔ day ≤ dayOf x :=
  (Int.le_ediv_iff_mul_le (by decide)).symm

theorem lt_midnight_iff {day x : Int} : x < midnight day ↔ dayOf x < day :=
  (Int.ediv_lt_iff_lt_mul (by decide)).symm

theorem midnight_add (day n : Int) : midnight (day + n) = midnight day + n * dayLength :=
  Int.add_mul day n dayLength

theorem midnight_injective {day day' : Int} (h : midnight day = midnight day') : day = day' := by
  rw [← dayOf_midnight day, h, dayOf_midnight]

/-! ## First days -/

/-- The latest day on or before a day that is the given day of the week. -/
structure IsFirst (start : Weekday) (day first : Int) : Prop where
  weekday : Weekday.ofDays first = start
  le : first ≤ day
  latest : ∀ other, Weekday.ofDays other = start → other ≤ day → other ≤ first

/-- The first day of the week in which a day lies. -/
def firstDay (start : Weekday) (day : Int) : Int :=
  day - (((Weekday.ofDays day).number : Int) - start.number) % 7

theorem firstDay_isFirst (start : Weekday) (day : Int) : IsFirst start day (firstDay start day) := by
  have hpos := start.number_pos
  have hle := start.number_le
  rw [firstDay, Weekday.number_ofDays]
  refine ⟨?_, ?_, ?_⟩
  · rw [Weekday.ofDays_eq_iff]
    omega
  · omega
  · intro other hother hday
    rw [Weekday.ofDays_eq_iff] at hother
    omega

theorem IsFirst.unique {start : Weekday} {day first first' : Int} (h : IsFirst start day first)
    (h' : IsFirst start day first') : first = first' :=
  Int.le_antisymm (h'.latest first h.weekday h.le) (h.latest first' h'.weekday h'.le)

theorem firstDay_bounds (start : Weekday) (day : Int) :
    firstDay start day ≤ day ∧ day < firstDay start day + 7 := by
  rw [firstDay]
  omega

theorem firstDay_eq_iff {start : Weekday} {day first : Int} (hfirst : Weekday.ofDays first = start) :
    firstDay start day = first ↔ first ≤ day ∧ day < first + 7 := by
  constructor
  · rintro rfl
    exact firstDay_bounds start day
  · rintro ⟨hle, hlt⟩
    have hday := firstDay_isFirst start day
    have hbounds := firstDay_bounds start day
    have hafter := hday.latest first hfirst hle
    have hsame := (Weekday.ofDays_eq_iff.mp hfirst).trans (Weekday.ofDays_eq_iff.mp hday.weekday).symm
    omega

/-! ## Weeks -/

/-- The start of the week in which a point in time lies. -/
def weekStart (start : Weekday) (x : Int) : Int := midnight (firstDay start (dayOf x))

/-- The number of the day in its week, counted from 1. -/
def dayNumber (start : Weekday) (x : Int) : Int := dayOf x - firstDay start (dayOf x) + 1

/-- Seven days that start with the given day of the week hold both points in time. -/
def SameWeek (start : Weekday) (x y : Int) : Prop :=
  ∃ first, Weekday.ofDays first = start ∧
    (midnight first ≤ x ∧ x < midnight (first + 7)) ∧ midnight first ≤ y ∧ y < midnight (first + 7)

variable (start : Weekday) (x : Int)

theorem dayNumber_bounds : 1 ≤ dayNumber start x ∧ dayNumber start x ≤ 7 := by
  have hbounds := firstDay_bounds start (dayOf x)
  rw [dayNumber]
  omega

theorem dayNumber_monday : dayNumber .monday x = (Weekday.ofDays (dayOf x)).number := by
  have hpos := (Weekday.ofDays (dayOf x)).number_pos
  have hle := (Weekday.ofDays (dayOf x)).number_le
  have hmonday : Weekday.monday.number = 1 := rfl
  rw [dayNumber, firstDay, hmonday]
  omega

/-- Days numbered from Monday on, numbered anew. -/
theorem dayNumber_shift :
    (dayNumber .monday x + (7 - start.number : Nat)).tmod 7 + 1 = dayNumber start x := by
  have hpos := start.number_pos
  have hle := start.number_le
  rw [dayNumber_monday, Int.tmod_eq_emod_of_nonneg (by omega), dayNumber, firstDay]
  omega

theorem weekStart_le : weekStart start x ≤ x :=
  midnight_le_iff.mpr (firstDay_bounds start (dayOf x)).1

theorem lt_weekStart_add : x < weekStart start x + 7 * dayLength := by
  rw [weekStart, ← midnight_add]
  exact lt_midnight_iff.mpr (firstDay_bounds start (dayOf x)).2

theorem weekStart_weekStart : weekStart start (weekStart start x) = weekStart start x := by
  have hfirst := (firstDay_isFirst start (dayOf x)).weekday
  rw [weekStart, weekStart, dayOf_midnight, (firstDay_eq_iff hfirst).mpr (by omega)]

theorem weekStart_eq_iff {start : Weekday} {x y : Int} :
    weekStart start x = weekStart start y ↔ SameWeek start x y := by
  constructor
  · intro h
    have hsame : firstDay start (dayOf x) = firstDay start (dayOf y) := midnight_injective h
    refine ⟨firstDay start (dayOf x), (firstDay_isFirst start (dayOf x)).weekday, ?_, ?_⟩
    · rw [midnight_le_iff, lt_midnight_iff]
      exact firstDay_bounds start (dayOf x)
    · rw [hsame, midnight_le_iff, lt_midnight_iff]
      exact firstDay_bounds start (dayOf y)
  · rintro ⟨first, hfirst, hx, hy⟩
    rw [midnight_le_iff, lt_midnight_iff] at hx hy
    rw [weekStart, weekStart, (firstDay_eq_iff hfirst).mpr hx, (firstDay_eq_iff hfirst).mpr hy]

/-- The start of the week, from the number of the day. -/
theorem midnight_sub_dayNumber :
    midnight (dayOf x) + (1 - dayNumber start x) * dayLength = weekStart start x := by
  rw [weekStart, ← midnight_add, dayNumber]
  congr 1
  omega

end Week

end Sluice
