import Sluice.Calendar.Text

/-!
# Timestamps as databases write them

Stricter readers than those for documents: a date and a time with a blank or a `T` between them,
and the internet form with an offset, whose fields have fixed widths.
-/

namespace Sluice

open Calendar

namespace Calendar

/-- Exactly `width` digits. -/
def fixedNumber (width : Nat) : Reader Nat := fun cs =>
  let digits := cs.take width
  if digits.length = width && digits.all Char.isDigit then number width cs else none

/-- `HH:MM:SS[.f]` with colons right after the numbers. -/
def plainTime (field : Reader Nat) : Reader TimeOfDay := fun cs => do
  let (h, cs) ← field cs
  let (_, cs) ← char ':' cs
  let (m, cs) ← field cs
  let (_, cs) ← char ':' cs
  let (s, cs) ← field cs
  let (f, cs) ← fraction cs
  let t ← TimeOfDay.ofParts? h m s f
  return (t, cs)

/-- A date, what stands between, and a time; nothing may follow. -/
def stamp (between : Reader Unit) (s : String) : Option DateTime := do
  let (y, cs) ← year s.toList
  let (_, cs) ← char '-' cs
  let (m, cs) ← number 2 cs
  let (_, cs) ← char '-' cs
  let (d, cs) ← number 2 cs
  let (_, cs) ← between cs
  let (t, cs) ← plainTime (number 2) cs
  let date ← Date.ofCivil? y m d
  if cs.isEmpty then some ⟨date, t⟩ else none

/-- `Z`, or a sign, hours, a colon and minutes, in seconds. -/
def strictOffset : Reader Int
  | [] => none
  | c :: cs =>
    if c = 'Z' || c = 'z' then some (0, cs)
    else do
      let sign ←
        if c = '+' then some (1 : Int) else if c = '-' || c = '\u2212' then some (-1) else none
      let (h, cs) ← fixedNumber 2 cs
      let (_, cs) ← char ':' cs
      let (m, cs) ← fixedNumber 2 cs
      if h ≤ 23 && m ≤ 59 then some (sign * (h * 3600 + m * 60 : Nat), cs) else none

end Calendar

namespace DateTime

/-- Read a timestamp without a zone; blanks, or a `T`, stand before the time. -/
def ofTimestamp? (s : String) : Option DateTime :=
  stamp (fun cs => some ((), cs.dropWhile Text.isBlank)) s <|> stamp (char 'T') s

/-- Read the internet form, converted to universal time. -/
def ofInternet? (s : String) : Option DateTime := do
  let (y, cs) ← fixedNumber 4 s.toList
  let (_, cs) ← char '-' cs
  let (m, cs) ← fixedNumber 2 cs
  let (_, cs) ← char '-' cs
  let (d, cs) ← fixedNumber 2 cs
  let cs ← match cs with
    | c :: rest => if c = 'T' || c = 't' || c = ' ' then some rest else none
    | [] => none
  let (t, cs) ← plainTime (fixedNumber 2) cs
  let (offset, cs) ← strictOffset cs
  let date ← Date.ofCivil? y m d
  if cs.isEmpty then some (DateTime.addSeconds ⟨date, t⟩ (-offset)) else none

/-- Read a point in time: the internet form, else a timestamp in universal time. -/
def ofInstant? (s : String) : Option DateTime := ofInternet? s <|> ofTimestamp? s

example : (ofInstant? "2024-05-15T13:45:00+02:00").map (render " ") =
    some "2024-05-15 11:45:00" := by
  decide +kernel
example : ofTimestamp? "2024-05-15 13:45" = none ∧ ofTimestamp? "2024-05-15T13:45:00Z" = none := by
  decide +kernel

end DateTime

end Sluice
