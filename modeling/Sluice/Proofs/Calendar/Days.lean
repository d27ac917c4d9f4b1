import Mathlib.Tactic.IntervalCases
import Sluice.Calendar

/-!
# Day numbers

The number of a day tells its date. Years are counted from March within eras of 400 years, so the
year of an era is found from its days once the leap days are taken off.
-/

namespace Sluice

namespace Date

/-- The date exists, and its year is one of the supported. -/
def Valid (d : Date) : Prop := ofCivil? d.year d.month d.day = some d

theorem valid_iff {d : Date} :
    d.Valid ↔ (-262143 ≤ d.year ∧ d.year ≤ 262142) ∧ (1 ≤ d.month ∧ d.month ≤ 12) ∧
      1 ≤ d.day ∧ d.day ≤ daysInMonth d.year d.month := by
  rw [Valid, ofCivil?]
  simp [and_assoc]

/-- The days of an era before a day, the era beginning in March. -/
def dayOfEra (year dayOfYear : Int) : Int := year * 365 + year / 4 - year / 100 + dayOfYear

/-- The days of an era before a day, without the leap days of the years before. -/
def commonDays (day : Int) : Int := day - day / 1460 + day / 36524 - day / 146096

theorem commonDays_le {a b : Int} (h : a ≤ b) : commonDays a ≤ commonDays b := by
  rw [commonDays, commonDays]
  omega

/-- The last day of a year that begins in March. -/
def lastDay (year : Int) : Int :=
  if (year + 1) % 4 = 0 ∧ ((year + 1) % 100 ≠ 0 ∨ (year + 1) % 400 = 0) then 365 else 364

theorem commonDays_year : ∀ n : Nat, n < 400 → (n : Int) * 365 ≤ commonDays (dayOfEra n 0) ∧
    commonDays (dayOfEra n (lastDay n)) < ((n : Int) + 1) * 365 := by
  decide +kernel

theorem yearOfEra_eq {year dayOfYear : Int} (hyear : 0 ≤ year ∧ year < 400)
    (hday : 0 ≤ dayOfYear ∧ dayOfYear ≤ lastDay year) :
    commonDays (dayOfEra year dayOfYear) / 365 = year := by
  obtain ⟨n, rfl⟩ := Int.eq_ofNat_of_zero_le hyear.1
  obtain ⟨hfirst, hlast⟩ := commonDays_year n (by omega)
  have hlow : commonDays (dayOfEra n 0) ≤ commonDays (dayOfEra n dayOfYear) :=
    commonDays_le (by rw [dayOfEra, dayOfEra]; omega)
  have hhigh : commonDays (dayOfEra n dayOfYear) ≤ commonDays (dayOfEra n (lastDay n)) :=
    commonDays_le (by rw [dayOfEra, dayOfEra]; omega)
  omega

theorem lastDay_le (year : Int) : 364 ≤ lastDay year ∧ lastDay year ≤ 365 := by
  rw [lastDay]
  split <;> decide

/-- A day number splits into the era, the year of the era and the day of the year. -/
theorem ofDays_dayOfEra {era year dayOfYear : Int} (hyear : 0 ≤ year ∧ year < 400)
    (hday : 0 ≤ dayOfYear ∧ dayOfYear ≤ lastDay year) :
    ofDays (era * 146097 + dayOfEra year dayOfYear - 719468) =
      let mp := (5 * dayOfYear + 2) / 153
      let month := if mp < 10 then mp + 3 else mp - 9
      ⟨year + era * 400 + (if month ≤ 2 then 1 else 0), month.toNat,
        (dayOfYear - (153 * mp + 2) / 5 + 1).toNat⟩ := by
  have hlast := lastDay_le year
  have hlow : 0 ≤ dayOfEra year dayOfYear := by
    rw [dayOfEra]
    omega
  have hhigh : dayOfEra year dayOfYear < 146097 := by
    rw [dayOfEra]
    rw [lastDay] at hday
    split at hday <;> omega
  have hera : (era * 146097 + dayOfEra year dayOfYear - 719468 + 719468).fdiv 146097 = era := by
    rw [Int.fdiv_eq_ediv_of_nonneg _ (by decide)]
    omega
  have hrest : era * 146097 + dayOfEra year dayOfYear - 719468 + 719468 - era * 146097 =
      dayOfEra year dayOfYear := by
    omega
  have hyearOfEra := yearOfEra_eq hyear hday
  rw [commonDays] at hyearOfEra
  have hdayOfYear : dayOfEra year dayOfYear - (365 * year + year / 4 - year / 100) = dayOfYear := by
    rw [dayOfEra]
    omega
  simp only [ofDays, hera, hrest, hyearOfEra, hdayOfYear]

/-- How many days a month has at most, the months being counted from March. -/
def marchLength (m : Int) : Nat :=
  if m = 11 then 29 else if m = 1 ∨ m = 3 ∨ m = 6 ∨ m = 8 then 30 else 31

theorem monthOfYear_eq {m : Int} {day : Nat} (hm : 0 ≤ m ∧ m ≤ 11)
    (hday : 1 ≤ day ∧ day ≤ marchLength m) : (5 * ((153 * m + 2) / 5 + day - 1) + 2) / 153 = m := by
  obtain ⟨hlow, hhigh⟩ := hm
  rw [marchLength] at hday
  interval_cases m <;> simp at hday <;> omega

/-- All months but the last lie within a common year. -/
theorem monthEnd_le {m : Int} (hm : 0 ≤ m ∧ m ≤ 10) :
    (153 * m + 2) / 5 + (marchLength m : Int) - 1 ≤ 364 := by
  obtain ⟨hlow, hhigh⟩ := hm
  interval_cases m <;> decide

theorem ofDays_march {era year m : Int} {day : Nat} (hyear : 0 ≤ year ∧ year < 400)
    (hm : 0 ≤ m ∧ m ≤ 11) (hday : 1 ≤ day ∧ day ≤ marchLength m)
    (hlast : (153 * m + 2) / 5 + day - 1 ≤ lastDay year) :
    ofDays (era * 146097 + dayOfEra year ((153 * m + 2) / 5 + day - 1) - 719468) =
      ⟨year + era * 400 + (if m < 10 then 0 else 1), (if m < 10 then m + 3 else m - 9).toNat,
        day⟩ := by
  have hmonth := monthOfYear_eq hm hday
  rw [ofDays_dayOfEra hyear ⟨by omega, hlast⟩]
  simp only [hmonth]
  by_cases hm10 : m < 10
  · simp only [hm10, if_true]
    have : ¬ m + 3 ≤ 2 := by omega
    simp [this]
    omega
  · simp only [hm10, if_false]
    have : m - 9 ≤ 2 := by omega
    simp [this]
    omega

theorem toDays_eq (d : Date) :
    d.toDays =
      let y : Int := if d.month ≤ 2 then d.year - 1 else d.year
      let m : Int := if d.month ≤ 2 then d.month + 9 else (d.month : Int) - 3
      y / 400 * 146097 + dayOfEra (y % 400) ((153 * m + 2) / 5 + d.day - 1) - 719468 := by
  simp only [toDays, Int.fdiv_eq_ediv_of_nonneg _ (show (0 : Int) ≤ 400 by decide), dayOfEra]
  omega

theorem daysInMonth_le (year : Int) {month : Nat} (hmonth : 1 ≤ month ∧ month ≤ 12) :
    daysInMonth year month ≤
      marchLength (if month ≤ 2 then month + 9 else (month : Int) - 3) := by
  obtain ⟨hlow, hhigh⟩ := hmonth
  interval_cases month <;> simp [daysInMonth, marchLength]
  split <;> omega

/-- Only a leap year has a day more before March. -/
theorem lastDay_ge {year : Int} {day : Nat} (hday : day ≤ daysInMonth year 2) :
    337 + (day : Int) - 1 ≤ lastDay ((year - 1) % 400) := by
  have hlast := lastDay_le ((year - 1) % 400)
  rw [daysInMonth, if_pos rfl] at hday
  split at hday
  · next hleap =>
      simp only [isLeapYear, Bool.and_eq_true, Bool.or_eq_true, decide_eq_true_eq] at hleap
      rw [lastDay, if_pos (by omega)]
      omega
  · omega

theorem ofDays_toDays {d : Date} (h : d.Valid) : ofDays d.toDays = d := by
  obtain ⟨year, month, day⟩ := d
  obtain ⟨-, ⟨hfirst, hlast⟩, hday, hlength⟩ := valid_iff.mp h
  simp only at hfirst hlast hday hlength
  have hle := hlength.trans (daysInMonth_le year ⟨hfirst, hlast⟩)
  rw [toDays_eq]
  by_cases hmonth : month ≤ 2
  · simp only [hmonth, if_true] at hle ⊢
    have hend : (153 * ((month : Int) + 9) + 2) / 5 + day - 1 ≤ lastDay ((year - 1) % 400) := by
      have hlastDay := lastDay_le ((year - 1) % 400)
      by_cases hfebruary : month = 2
      · subst hfebruary
        exact lastDay_ge hlength
      · have hend := monthEnd_le (m := (month : Int) + 9) (by omega)
        omega
    have hmarch : ¬ (month : Int) + 9 < 10 := by omega
    rw [ofDays_march (by omega) (by omega) ⟨hday, hle⟩ hend, if_neg hmarch, if_neg hmarch,
      Date.mk.injEq]
    omega
  · simp only [hmonth, if_false] at hle ⊢
    have hend : (153 * ((month : Int) - 3) + 2) / 5 + day - 1 ≤ lastDay (year % 400) := by
      have hlastDay := lastDay_le (year % 400)
      have hend := monthEnd_le (m := (month : Int) - 3) (by omega)
      omega
    have hmarch : (month : Int) - 3 < 10 := by omega
    rw [ofDays_march (by omega) (by omega) ⟨hday, hle⟩ hend, if_pos hmarch, if_pos hmarch,
      Date.mk.injEq]
    omega

end Date

end Sluice
