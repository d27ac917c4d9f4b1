import Sluice.Calendar.Text
import Sluice.Proofs.Calendar.Days

/-!
# Printed dates and times

Whatever date or time is printed, reading the text gives it back. A reader takes a number to end at
the first character that is not a digit, so each part is read up to the separator behind it.
-/

namespace Sluice

open Text

namespace Calendar

variable {digits rest : List Char} {n width : Nat}

/-! ## Numbers -/

/-- A text of digits, and the number that it stands for. -/
structure Spells (digits : List Char) (n : Nat) : Prop where
  ne_nil : digits ≠ []
  isDigit : ∀ c ∈ digits, c.isDigit = true
  value : Nat.ofDigitChars 10 digits 0 = n

/-- No digit follows. -/
def Stops (rest : List Char) : Prop := ∀ c ∈ rest.head?, c.isDigit = false

theorem stops_nil : Stops [] := by simp [Stops]

theorem stops_cons {c : Char} (h : c.isDigit = false) (cs : List Char) : Stops (c :: cs) := by
  simpa [Stops] using h

theorem toList_padded (width n : Nat) :
    (padded width n).toList =
      List.replicate (width - (Nat.toDigits 10 n).length) '0' ++ Nat.toDigits 10 n := by
  have hlength : (toString n).length = (Nat.toDigits 10 n).length := by
    rw [Nat.toString_eq_repr, ← Nat.toList_repr, String.length_toList]
  rw [padded, padLeft, hlength, String.toList_append, String.toList_ofList, Nat.toString_eq_repr,
    Nat.toList_repr]

theorem padded_spells (width n : Nat) : Spells (padded width n).toList n := by
  rw [toList_padded]
  constructor
  · simp [Nat.toDigits_ne_nil]
  · intro c hc
    cases List.mem_append.mp hc with
    | inl hzero =>
        rw [(List.mem_replicate.mp hzero).2]
        decide
    | inr hdigit => exact Nat.isDigit_of_mem_toDigits (by decide) (by decide) hdigit
  · rw [Nat.ofDigitChars_append, Nat.ofDigitChars_replicate_zero, Nat.mul_zero,
      Nat.ofDigitChars_ten_toDigits]

theorem length_padded (hwidth : 0 < width) (hn : n < 10 ^ width) :
    (padded width n).toList.length = width := by
  have hle := (Nat.length_toDigits_le_iff (b := 10) (by decide) hwidth).mpr hn
  rw [toList_padded, List.length_append, List.length_replicate]
  omega

theorem foldl_digits (digits : List Char) :
    digits.foldl (fun n c => n * 10 + (c.toNat - '0'.toNat)) 0 = Nat.ofDigitChars 10 digits 0 := by
  simp only [Nat.ofDigitChars, Nat.mul_comm]

theorem not_isBlank_of_isDigit {c : Char} (h : c.isDigit = true) : isBlank c = false := by
  have hrange := Char.isDigit_iff_toNat.mp h
  have hzero : '0'.toNat = 48 := rfl
  have hnine : '9'.toNat = 57 := rfl
  simp only [isBlank, Bool.or_eq_false_iff, Bool.and_eq_false_iff, decide_eq_false_iff_not]
  omega

/-- Digits begin with a digit. -/
theorem Spells.exists_cons (h : Spells digits n) :
    ∃ c cs, digits = c :: cs ∧ c.isDigit = true := by
  obtain ⟨c, cs, rfl⟩ := List.exists_cons_of_ne_nil h.ne_nil
  exact ⟨c, cs, rfl, h.isDigit c (by simp)⟩

theorem Spells.dropWhile_isBlank (h : Spells digits n) (rest : List Char) :
    (digits ++ rest).dropWhile isBlank = digits ++ rest := by
  obtain ⟨c, cs, rfl, hc⟩ := h.exists_cons
  rw [List.cons_append, List.dropWhile_cons_of_neg (by simp [not_isBlank_of_isDigit hc])]

/-- The digits at the front of a text, if no more than are looked at. -/
theorem takeWhile_take (h : ∀ c ∈ digits, c.isDigit = true) (hlength : digits.length ≤ width)
    (hrest : Stops rest) : ((digits ++ rest).take width).takeWhile Char.isDigit = digits := by
  have hstop : (rest.take (width - digits.length)).takeWhile Char.isDigit = [] := by
    cases rest with
    | nil => simp
    | cons c rest =>
        have hc : c.isDigit = false := hrest c rfl
        cases width - digits.length with
        | zero => rfl
        | succ k => simp [hc]
  rw [List.take_append, List.take_of_length_le hlength, List.takeWhile_append_of_pos h, hstop,
    List.append_nil]

theorem number_append (h : Spells digits n) (hlength : digits.length ≤ width)
    (hrest : Stops rest) : number width (digits ++ rest) = some (n, rest) := by
  have hempty : digits.isEmpty = false := by simpa using h.ne_nil
  simp only [number, h.dropWhile_isBlank, takeWhile_take h.isDigit hlength hrest, hempty,
    foldl_digits, h.value, List.drop_left]
  rfl

theorem number_padded (hwidth : 0 < width) (hn : n < 10 ^ width) (hrest : Stops rest) :
    number width ((padded width n).toList ++ rest) = some (n, rest) :=
  number_append (padded_spells width n) (length_padded hwidth hn).le hrest

theorem separator_cons {c : Char} (hc : isBlank c = false) (cs : List Char) :
    separator c (c :: cs) = some ((), cs) := by
  rw [separator, List.dropWhile_cons_of_neg (by simp [hc]), char, if_pos rfl]

/-! ## Dates -/

/-- The year as it is printed. -/
def yearText (y : Int) : String :=
  if 0 ≤ y && y ≤ 9999 then padded 4 y.toNat
  else (if y < 0 then "-" else "+") ++ padded 4 y.natAbs

theorem year_signed (hrest : Stops rest) (n : Nat) :
    year ('-' :: ((padded 4 n).toList ++ rest)) = some (-(n : Int), rest) ∧
      year ('+' :: ((padded 4 n).toList ++ rest)) = some ((n : Int), rest) := by
  have hspells := padded_spells 4 n
  have hlength : (padded 4 n).toList.length ≤ ((padded 4 n).toList ++ rest).length := by simp
  have hnumber := number_append hspells hlength hrest
  obtain ⟨c, cs, hcons, hc⟩ := hspells.exists_cons
  have hhead : (((padded 4 n).toList ++ rest).head?.map Char.isDigit) = some true := by
    rw [hcons, List.cons_append, List.head?_cons, Option.map_some, hc]
  constructor
  · rw [year, List.dropWhile_cons_of_neg (by decide)]
    simp only [hhead, if_true, hnumber, Option.map_some]
  · rw [year, List.dropWhile_cons_of_neg (by decide)]
    simp only [hhead, if_true, hnumber, Option.map_some]

theorem year_unsigned (hn : n < 10000) (hrest : Stops rest) :
    year ((padded 4 n).toList ++ rest) = some ((n : Int), rest) := by
  have hspells := padded_spells 4 n
  have hnumber := number_padded (show 0 < 4 by decide) hn hrest
  obtain ⟨c, cs, hcons, hc⟩ := hspells.exists_cons
  rw [year, hspells.dropWhile_isBlank]
  rw [hcons, List.cons_append] at hnumber ⊢
  split
  · next heq =>
      rw [(List.cons.inj heq).1] at hc
      exact absurd hc (by decide)
  · next heq =>
      rw [(List.cons.inj heq).1] at hc
      exact absurd hc (by decide)
  · rw [hnumber, Option.map_some]

theorem year_yearText (y : Int) (hrest : Stops rest) :
    year ((yearText y).toList ++ rest) = some (y, rest) := by
  have hsigned := year_signed hrest y.natAbs
  rw [yearText]
  split
  · next hshort =>
      simp only [Bool.and_eq_true, decide_eq_true_eq] at hshort
      rw [year_unsigned (by omega) hrest, Int.toNat_of_nonneg hshort.1]
  · rw [String.toList_append]
    split
    · next hnegative =>
        have hy : -(y.natAbs : Int) = y := by omega
        exact hsigned.1.trans (by rw [hy])
    · next hpositive =>
        have hy : (y.natAbs : Int) = y := by omega
        exact hsigned.2.trans (by rw [hy])

theorem render_eq (d : Date) :
    d.render.toList = (yearText d.year).toList ++
      '-' :: ((padded 2 d.month).toList ++ '-' :: (padded 2 d.day).toList) := by
  have hdash : "-".toList = ['-'] := rfl
  simp only [Date.render, yearText, String.toList_append, List.append_assoc, hdash,
    List.cons_append, List.nil_append]

theorem dateParts_render {d : Date} (h : d.Valid) (hrest : Stops rest) :
    dateParts (d.render.toList ++ rest) = some ((d.year, d.month, d.day), rest) := by
  obtain ⟨-, hmonth, hday, hlength⟩ := Date.valid_iff.mp h
  have hshort : d.day < 10 ^ 2 := by
    have hle : Date.daysInMonth d.year d.month ≤ 31 := by
      rw [Date.daysInMonth]
      split <;> split <;> decide
    omega
  have hdash : ∀ cs, Stops ('-' :: cs) := stops_cons (by decide)
  simp only [dateParts, render_eq, List.append_assoc, List.cons_append,
    year_yearText d.year (hdash _), separator_cons (c := '-') (by decide),
    number_padded Nat.zero_lt_two (show d.month < 10 ^ 2 by omega) (hdash _),
    number_padded Nat.zero_lt_two hshort hrest, Option.bind_eq_bind, Option.bind_some]
  rfl

theorem date_render {d : Date} (h : d.Valid) (hrest : Stops rest) :
    date (d.render.toList ++ rest) = some (d, rest) := by
  have hcivil : Date.ofCivil? d.year d.month d.day = some d := h
  simp only [date, dateParts_render h hrest, Option.bind_eq_bind, Option.bind_some, hcivil]
  rfl

/-! ## Times of day -/

/-- The fraction of a second as it is printed. -/
def fractionText (nano : Nat) : String :=
  if nano = 0 then ""
  else if nano % 1000000 = 0 then "." ++ padded 3 (nano / 1000000)
  else if nano % 1000 = 0 then "." ++ padded 6 (nano / 1000)
  else "." ++ padded 9 nano

/-- Neither a digit nor a fraction follows. -/
structure Ends (rest : List Char) : Prop where
  stops : Stops rest
  no_point : rest.head? ≠ some '.'

theorem ends_nil : Ends [] := ⟨stops_nil, by simp⟩

theorem fraction_padded {scale : Nat} (hwidth : 0 < width ∧ width ≤ 9)
    (hscale : Nat.pow 10 (9 - width) = scale) (hn : n < 10 ^ width) (hrest : Stops rest) :
    fraction (("." ++ padded width n).toList ++ rest) = some (n * scale, rest) := by
  have hspells := padded_spells width n
  have hlength := length_padded hwidth.1 hn
  have hempty : (padded width n).toList.isEmpty = false := by simpa using hspells.ne_nil
  have htail : rest.dropWhile Char.isDigit = rest := by
    cases rest with
    | nil => rfl
    | cons c rest =>
        have hc : c.isDigit = false := hrest c rfl
        rw [List.dropWhile_cons_of_neg (by simp [hc])]
  have hpoint : ".".toList = ['.'] := rfl
  simp only [String.toList_append, hpoint, List.cons_append, List.nil_append, fraction,
    takeWhile_take hspells.isDigit (hlength.le.trans hwidth.2) hrest, hempty, foldl_digits,
    hspells.value, hlength, List.drop_left' hlength, htail, hscale]
  rfl

theorem fraction_none (hrest : Ends rest) : fraction rest = some (0, rest) := by
  rw [fraction.eq_def]
  split
  · exact absurd rfl hrest.no_point
  · rfl

theorem fraction_fractionText {nano : Nat} (hnano : nano < 1000000000) (hrest : Ends rest) :
    fraction ((fractionText nano).toList ++ rest) = some (nano, rest) := by
  rw [fractionText]
  split
  · next hzero =>
      subst hzero
      exact fraction_none hrest
  · split
    · next hmillis =>
        have hmillis_lt : nano / 1000000 < 10 ^ 3 := by omega
        have hread := fraction_padded (by decide) rfl hmillis_lt hrest.stops
        rwa [Nat.div_mul_cancel (Nat.dvd_of_mod_eq_zero hmillis)] at hread
    · split
      · next hmicros =>
          have hmicros_lt : nano / 1000 < 10 ^ 6 := by omega
          have hread := fraction_padded (by decide) rfl hmicros_lt hrest.stops
          rwa [Nat.div_mul_cancel (Nat.dvd_of_mod_eq_zero hmicros)] at hread
      · have hread := fraction_padded (show 0 < 9 ∧ 9 ≤ 9 by decide) rfl hnano hrest.stops
        rwa [Nat.mul_one] at hread

end Calendar

/-- Every time of a day, and leap seconds at the end of its minutes. -/
structure TimeOfDay.Valid (t : TimeOfDay) : Prop where
  second_lt : t.second < 86400
  nano_lt : t.nano < 2000000000
  leap : 1000000000 ≤ t.nano → t.second % 60 = 59

namespace Calendar

variable {rest : List Char}

/-- The printed second of a time; a leap second is the sixtieth of its minute. -/
def clockSecond (t : TimeOfDay) : Nat := t.second % 60 + if 1000000000 ≤ t.nano then 1 else 0

/-- The printed nanoseconds of a time. -/
def clockNano (t : TimeOfDay) : Nat :=
  if 1000000000 ≤ t.nano then t.nano - 1000000000 else t.nano

theorem time_render_eq (t : TimeOfDay) :
    t.render.toList = (padded 2 (t.second / 3600)).toList ++
      ':' :: ((padded 2 (t.second / 60 % 60)).toList ++
        ':' :: ((padded 2 (clockSecond t)).toList ++ (fractionText (clockNano t)).toList)) := by
  have hcolon : ":".toList = [':'] := rfl
  by_cases hleap : 1000000000 ≤ t.nano <;>
    simp only [TimeOfDay.render, fractionText, clockSecond, clockNano, hleap, if_true, if_false,
      String.toList_append, List.append_assoc, hcolon, List.cons_append, List.nil_append]

theorem stops_fractionText (nano : Nat) (hrest : Ends rest) :
    Stops ((fractionText nano).toList ++ rest) := by
  have hpoint : ".".toList = ['.'] := rfl
  rw [fractionText]
  split
  · exact hrest.stops
  · split <;> [skip; split] <;>
      · rw [String.toList_append, hpoint]
        exact stops_cons (by decide) _

/-- The parts of a printed time, read one after the other. -/
theorem clock_render {t : TimeOfDay} (h : t.Valid) (hrest : Ends rest) :
    ∃ cs, hourMinute (t.render.toList ++ rest) = some ((t.second / 3600, t.second / 60 % 60), cs) ∧
      secondPart cs = some ((clockSecond t, clockNano t), rest) := by
  have hsecond := h.second_lt
  have hclock : clockSecond t < 10 ^ 2 := by
    rw [clockSecond]
    split <;> omega
  have hnano : clockNano t < 1000000000 := by
    have hlt := h.nano_lt
    rw [clockNano]
    split <;> omega
  have hcolon : ∀ cs, Stops (':' :: cs) := stops_cons (by decide)
  refine ⟨':' :: ((padded 2 (clockSecond t)).toList ++
    ((fractionText (clockNano t)).toList ++ rest)), ?_, ?_⟩
  · simp only [hourMinute, time_render_eq, List.append_assoc, List.cons_append,
      number_padded Nat.zero_lt_two (show t.second / 3600 < 10 ^ 2 by omega) (hcolon _),
      separator_cons (c := ':') (by decide),
      number_padded Nat.zero_lt_two (show t.second / 60 % 60 < 10 ^ 2 by omega) (hcolon _),
      Option.bind_eq_bind, Option.bind_some]
    rfl
  · simp only [secondPart, separator_cons (c := ':') (by decide),
      number_padded Nat.zero_lt_two hclock (stops_fractionText _ hrest),
      fraction_fractionText hnano hrest, Option.bind_eq_bind, Option.bind_some]
    rfl

/-- The parts of a printed time make up the time. -/
theorem ofParts?_clock {t : TimeOfDay} (h : t.Valid) :
    TimeOfDay.ofParts? (t.second / 3600) (t.second / 60 % 60) (clockSecond t) (clockNano t) =
      some t := by
  obtain ⟨second, nano⟩ := t
  obtain ⟨hsecond, hnano, hleap⟩ := h
  simp only at hsecond hnano hleap ⊢
  by_cases hlong : 1000000000 ≤ nano
  · have hlast := hleap hlong
    have hclock : clockSecond ⟨second, nano⟩ = 60 := by simp [clockSecond, hlong, hlast]
    have hshown : clockNano ⟨second, nano⟩ = nano - 1000000000 := if_pos hlong
    rw [hclock, hshown, TimeOfDay.ofParts?, if_neg (by simp; omega), if_pos rfl, Option.some.injEq,
      TimeOfDay.mk.injEq]
    omega
  · have hclock : clockSecond ⟨second, nano⟩ = second % 60 := by simp [clockSecond, hlong]
    have hshown : clockNano ⟨second, nano⟩ = nano := if_neg hlong
    rw [hclock, hshown, TimeOfDay.ofParts?, if_neg (by simp; omega), if_neg (by omega),
      Option.some.injEq, TimeOfDay.mk.injEq]
    omega

theorem timeParts_render {t : TimeOfDay} (h : t.Valid) (hrest : Ends rest) :
    timeParts (t.render.toList ++ rest) = some (t, rest) := by
  obtain ⟨cs, hhours, hseconds⟩ := clock_render h hrest
  simp only [timeParts, hhours, hseconds, ofParts?_clock h, Option.bind_eq_bind, Option.bind_some]
  rfl

theorem clockParts_render {t : TimeOfDay} (h : t.Valid) (hrest : Ends rest) :
    clockParts (t.render.toList ++ rest) = some (t, rest) := by
  obtain ⟨cs, hhours, hseconds⟩ := clock_render h hrest
  have hclock : clockSecond t ≤ 60 := by
    rw [clockSecond]
    split <;> omega
  simp only [clockParts, hhours, hseconds, Option.filter, hclock, decide_true, if_true,
    Option.getD_some, ofParts?_clock h, Option.bind_eq_bind, Option.bind_some]
  rfl

end Calendar

/-! ## Whole texts -/

open Calendar

/-- A printed date is read as that date. -/
theorem Date.parse?_render {d : Date} (h : d.Valid) : parse? d.render = some d := by
  have hread := date_render h stops_nil
  rw [List.append_nil] at hread
  rw [parse?, hread]

/-- A printed time of day is read as that time. -/
theorem TimeOfDay.parse?_render {t : TimeOfDay} (h : t.Valid) : parse? t.render = some t := by
  have hread := clockParts_render h ends_nil
  rw [List.append_nil] at hread
  rw [parse?, whole, hread]
  rfl

namespace DateTime

/-- A date and a time of day that exist. -/
structure Valid (t : DateTime) : Prop where
  date : t.date.Valid
  time : t.time.Valid

variable {t : DateTime}

theorem render_eq (t : DateTime) :
    (t.render "T").toList = t.date.render.toList ++ 'T' :: t.time.render.toList := by
  have hletter : "T".toList = ['T'] := rfl
  rw [render, String.toList_append, String.toList_append, hletter, List.append_assoc,
    List.singleton_append]

theorem parse?_render (h : t.Valid) : parse? (t.render "T") = some t := by
  have hcivil : Date.ofCivil? t.date.year t.date.month t.date.day = some t.date := h.date
  have htime := timeParts_render h.time ends_nil
  rw [List.append_nil] at htime
  simp only [parse?, whole, render_eq,
    dateParts_render h.date (stops_cons (c := 'T') (by decide) _),
    separator_cons (c := 'T') (by decide), htime, hcivil, Option.bind_eq_bind, Option.bind_some]
  rfl

/-- Moving by no time at all stays where it is. -/
theorem addSeconds_zero (h : t.Valid) : t.addSeconds 0 = t := by
  have hsecond := h.time.second_lt
  have hday : (t.time.second : Int).fdiv 86400 = 0 := by
    rw [Int.fdiv_eq_ediv_of_nonneg _ (by decide)]
    omega
  have hrest : ((t.time.second : Int).fmod 86400).toNat = t.time.second := by
    rw [Int.fmod_eq_emod_of_nonneg _ (by decide)]
    omega
  simp only [addSeconds, Int.add_zero, hday, hrest, Date.ofDays_toDays h.date]

/-- A printed point in time is read as that point. -/
theorem parseUtc?_render (h : t.Valid) : parseUtc? (t.render "T" ++ "Z") = some t := by
  have hcivil : Date.ofCivil? t.date.year t.date.month t.date.day = some t.date := h.date
  have hsupported : t.date.isSupported = true := by
    have hyear := (Date.valid_iff.mp h.date).1
    simp [Date.isSupported, hyear]
  have hzone : "Z".toList = ['Z'] := rfl
  have hends : Ends ['Z'] := ⟨stops_cons (by decide) [], by decide⟩
  have hread : reader (fun c => c = 'T' || c = 't' || c = ' ') ((t.render "T" ++ "Z").toList) =
      some (t, ['Z']) := by
    simp only [reader, String.toList_append, render_eq, hzone, List.append_assoc, List.cons_append,
      dateParts_render h.date (stops_cons (c := 'T') (by decide) _), timeParts_render h.time hends,
      hcivil, Option.bind_eq_bind, Option.bind_some]
    rfl
  have hstay : t.addSeconds (-0) = t := addSeconds_zero h
  have hoffset : offset ['Z'] = some (0, []) := rfl
  have hblank : ['Z'].dropWhile isBlank = ['Z'] := by decide
  simp only [parseUtc?, whole, hread, hblank, hoffset, hstay, hsupported, if_true,
    Option.bind_eq_bind, Option.bind_some]
  rfl

end DateTime

end Sluice
