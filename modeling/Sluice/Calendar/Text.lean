import Sluice.Calendar
import Sluice.Text.Ascii
import Sluice.Text.Blank

/-!
# Dates and times as text

Printed form: `YYYY-MM-DD`, `HH:MM:SS[.f]`, a fraction of 3, 6 or 9 digits or none, a sign on
years outside 0 to 9999. The readers are more lenient: fields may have fewer digits and blanks
before them, and digits of a fraction beyond the ninth are dropped.
-/

namespace Sluice

open Text

/-! ## Printing -/

/-- A number with at least `width` digits. -/
def padded (width n : Nat) : String := padLeft width '0' (toString n)

namespace Date

/-- `YYYY-MM-DD`, with a sign when the year needs more or other than four digits. -/
def render (d : Date) : String :=
  let year :=
    if 0 ≤ d.year && d.year ≤ 9999 then padded 4 d.year.toNat
    else (if d.year < 0 then "-" else "+") ++ padded 4 d.year.natAbs
  year ++ "-" ++ padded 2 d.month ++ "-" ++ padded 2 d.day

end Date

namespace TimeOfDay

/-- `HH:MM:SS[.f]`. -/
def render (t : TimeOfDay) : String :=
  let leap := 1000000000 ≤ t.nano
  let nano := if leap then t.nano - 1000000000 else t.nano
  let second := t.second % 60 + if leap then 1 else 0
  let fraction :=
    if nano = 0 then ""
    else if nano % 1000000 = 0 then "." ++ padded 3 (nano / 1000000)
    else if nano % 1000 = 0 then "." ++ padded 6 (nano / 1000)
    else "." ++ padded 9 nano
  padded 2 (t.second / 3600) ++ ":" ++ padded 2 (t.second / 60 % 60) ++ ":" ++ padded 2 second ++
    fraction

end TimeOfDay

namespace DateTime

def render (separator : String) (t : DateTime) : String :=
  t.date.render ++ separator ++ t.time.render

end DateTime

/-! ## Reading -/

namespace Calendar

/-- A reader takes what it recognises off the front of a text. -/
abbrev Reader (α : Type) := List Char → Option (α × List Char)

/-- A natural number of at least one and at most `width` digits, blanks before it skipped. -/
def number (width : Nat) : Reader Nat := fun cs =>
  let cs := cs.dropWhile isBlank
  let digits := (cs.take width).takeWhile Char.isDigit
  if digits.isEmpty then none
  else some (digits.foldl (fun n c => n * 10 + (c.toNat - '0'.toNat)) 0, cs.drop digits.length)

/-- A year: four digits at most, or a sign and any number of digits. -/
def year : Reader Int := fun cs =>
  match cs.dropWhile isBlank with
  | '-' :: rest => if (rest.head?.map Char.isDigit) = some true then
      (number rest.length rest).map fun (n, rest) => (-(n : Int), rest) else none
  | '+' :: rest => if (rest.head?.map Char.isDigit) = some true then
      (number rest.length rest).map fun (n, rest) => ((n : Int), rest) else none
  | cs => (number 4 cs).map fun (n, rest) => ((n : Int), rest)

def char (c : Char) : Reader Unit
  | [] => none
  | d :: rest => if c = d then some ((), rest) else none

/-- One fixed character, blanks before it skipped. -/
def separator (c : Char) : Reader Unit := fun cs => char c (cs.dropWhile isBlank)

/-- An optional fraction of a second in nanoseconds. -/
def fraction : Reader Nat
  | '.' :: rest =>
    let digits := (rest.take 9).takeWhile Char.isDigit
    if digits.isEmpty then none
    else
      let value := digits.foldl (fun n c => n * 10 + (c.toNat - '0'.toNat)) 0
      some (value * Nat.pow 10 (9 - digits.length),
        (rest.drop digits.length).dropWhile Char.isDigit)
  | cs => some (0, cs)

/-- Year, month and day with dashes between them. -/
def dateParts : Reader (Int × Nat × Nat) := fun cs => do
  let (y, cs) ← year cs
  let (_, cs) ← separator '-' cs
  let (m, cs) ← number 2 cs
  let (_, cs) ← separator '-' cs
  let (d, cs) ← number 2 cs
  return ((y, m, d), cs)

def hourMinute : Reader (Nat × Nat) := fun cs => do
  let (h, cs) ← number 2 cs
  let (_, cs) ← separator ':' cs
  let (m, cs) ← number 2 cs
  return ((h, m), cs)

/-- A colon, seconds and an optional fraction. -/
def secondPart : Reader (Nat × Nat) := fun cs => do
  let (_, cs) ← separator ':' cs
  let (s, cs) ← number 2 cs
  let (f, cs) ← fraction cs
  return ((s, f), cs)

/-- Hours, minutes and seconds. -/
def timeParts : Reader TimeOfDay := fun cs => do
  let ((h, m), cs) ← hourMinute cs
  let ((s, f), cs) ← secondPart cs
  let t ← TimeOfDay.ofParts? h m s f
  return (t, cs)

/-- Hours and minutes, seconds only when they follow in full. -/
def clockParts : Reader TimeOfDay := fun cs => do
  let ((h, m), cs) ← hourMinute cs
  let ((s, f), cs) := ((secondPart cs).filter fun ((s, _), _) => s ≤ 60).getD ((0, 0), cs)
  let t ← TimeOfDay.ofParts? h m s f
  return (t, cs)

def date : Reader Date := fun cs => do
  let ((y, m, d), cs) ← dateParts cs
  let date ← Date.ofCivil? y m d
  return (date, cs)

/-- An offset from universal time in seconds: `Z`, or a sign, hours and minutes. -/
def offset : Reader Int := fun cs =>
  let signed (negative : Bool) (rest : List Char) : Option (Int × List Char) :=
    match rest with
    | h1 :: h2 :: rest =>
      if !(h1.isDigit && h2.isDigit) then none
      else
        match rest.dropWhile fun c => c = ':' || isBlank c with
        | m1 :: m2 :: rest =>
          if !(m1.isDigit && m2.isDigit) || m1.toNat > '5'.toNat then none
          else
            let two (a b : Char) : Int := (a.toNat - 48) * 10 + (b.toNat - 48)
            let seconds := two h1 h2 * 3600 + two m1 m2 * 60
            if seconds < 86400 then some (if negative then -seconds else seconds, rest) else none
        | _ => none
    | _ => none
  match cs with
  | 'Z' :: rest => some (0, rest)
  | 'z' :: rest => some (0, rest)
  | '+' :: rest => signed false rest
  | '-' :: rest => signed true rest
  | '\u2212' :: rest => signed true rest
  | _ => none

/-- The whole text, up to trailing blanks. -/
def whole (r : Reader α) (s : String) : Option α :=
  match r s.toList with
  | some (a, rest) => if rest.all isBlank then some a else none
  | none => none

end Calendar

open Calendar

/-- Read a date; nothing may follow it. -/
def Date.parse? (s : String) : Option Date :=
  match Calendar.date s.toList with
  | some (d, []) => some d
  | _ => none

/-- Read a time of day; the seconds may be missing. -/
def TimeOfDay.parse? (s : String) : Option TimeOfDay := whole clockParts s

/-- A date, a separator and a time. -/
def DateTime.reader (isSeparator : Char → Bool) : Reader DateTime := fun cs => do
  let ((y, m, d), cs) ← dateParts cs
  let cs ← match cs with
    | c :: rest => if isSeparator c then some rest else none
    | [] => none
  let (t, cs) ← timeParts cs
  let date ← Date.ofCivil? y m d
  return (⟨date, t⟩, cs)

/-- Read a date and time with a `T` between them, blanks around it allowed. -/
def DateTime.parse? (s : String) : Option DateTime :=
  whole (fun cs => do
    let ((y, m, d), cs) ← dateParts cs
    let (_, cs) ← separator 'T' cs
    let (t, cs) ← timeParts cs
    let date ← Date.ofCivil? y m d
    return (⟨date, t⟩, cs)) s

/-- Read a point in time with its offset and convert it to universal time. -/
def DateTime.parseUtc? (s : String) : Option DateTime :=
  whole (fun cs => do
    let (t, cs) ← DateTime.reader (fun c => c = 'T' || c = 't' || c = ' ') cs
    let cs := cs.dropWhile isBlank
    let (seconds, cs) ←
      match cs with
      | a :: b :: c :: rest =>
        if eqIgnoreCase (String.ofList [a, b, c]) "UTC" then some (0, rest) else offset cs
      | _ => offset cs
    let utc := t.addSeconds (-seconds)
    if utc.date.isSupported then some (utc, cs) else none) s

/-- Read a weekday by its full or three-letter name, in any case. -/
def Weekday.parse? (s : String) : Option Weekday :=
  Weekday.all.find? fun d => eqIgnoreCase s d.name || eqIgnoreCase s d.shortName

example : (Date.parse? "+12345-01-02").map Date.render = some "+12345-01-02" := by decide +kernel
example : (TimeOfDay.parse? "23:59:60.25").map TimeOfDay.render = some "23:59:60.250" := by
  decide +kernel
example : (DateTime.parseUtc? "2024-05-15T13:45:00+02:00").map (DateTime.render " ") =
    some "2024-05-15 11:45:00" := by decide +kernel

end Sluice
