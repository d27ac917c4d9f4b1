import Sluice.Proofs.Translation.Arithmetic
import Sluice.Proofs.Translation.Expressions
import Sluice.Registry.Builtin

/-!
# Weeks

The backends number the days of the week in ways of their own. Whatever the driver and whatever the
day that weeks start with, the day of the week comes out as its number in its week, and a point in
time is cut to the start of its week.
-/

namespace Sluice

open Calendar (Reader)
open Arithmetic TranslateM Week

/-! ## Steps that write -/

namespace TranslateM

/-- Whatever is bound before, the step succeeds with a text of this kind. -/
def Writes (step : TranslateM String) (kind : String → Prop) : Prop :=
  ∀ bound, ∃ s bound', step.after bound = (.ok s, bound') ∧ kind s

variable {step : TranslateM String} {kind kind' : String → Prop}

theorem writes_pure {s : String} (h : kind s) : Writes (pure s) kind :=
  fun bound => ⟨s, bound, after_pure s bound, h⟩

theorem Writes.bind {f : String → TranslateM String} (h : Writes step kind)
    (hf : ∀ s, kind s → Writes (f s) kind') : Writes (step >>= f) kind' := by
  intro bound
  obtain ⟨s, bound', hstep, hs⟩ := h bound
  rw [after_bind_ok hstep]
  exact hf s hs bound'

theorem Writes.mono (h : Writes step kind) (hkind : ∀ s, kind s → kind' s) :
    Writes step kind' := by
  intro bound
  obtain ⟨s, bound', hstep, hs⟩ := h bound
  exact ⟨s, bound', hstep, hkind s hs⟩

theorem Writes.around {before after : String} (h : Writes step kind)
    (hkind : ∀ s, kind s → kind' (before ++ s ++ after)) :
    Writes (Operation.around before after step) kind' :=
  h.bind fun s hs => writes_pure (hkind s hs)

end TranslateM

/-! ## Operations on days -/

/-- The operation numbers the days of the week, Monday being 1. -/
def Operation.NumbersDays (op : Operation) (spelling : Spelling) : Prop :=
  ∀ operand step x, Writes step (spelling.ReadsTime operand · x) →
    Writes (op step) (spelling.ReadsFactor operand · (dayNumber .monday x))

/-- The operation cuts a point in time to its day. -/
def Operation.CutsDays (op : Operation) (spelling : Spelling) : Prop :=
  ∀ operand step x, Writes step (spelling.ReadsTime operand · x) →
    Writes (op step) (spelling.ReadsTime operand · (midnight (dayOf x)))

/-- The operation adds an amount of days to a point in time. -/
def AddsDays (op : TranslateM String → TranslateM String → TranslateM String)
    (spelling : Spelling) : Prop :=
  ∀ operand amount base n x, Writes amount (spelling.ReadsSum operand · n) →
    Writes base (spelling.ReadsTime operand · x) →
      Writes (op amount base) (spelling.ReadsTime operand · (x + n * dayLength))

/-- The operations on days of a driver do what they are for. -/
structure Driver.TellsDays (d : Driver) (spelling : Spelling) : Prop where
  dayOfWeek : ∃ op, d.slot "day_of_week" (·.dayOfWeek) = .ok op ∧ op.NumbersDays spelling
  truncate : ∃ op, d.slot "truncate" (·.truncate) = .ok op ∧ (op .day).CutsDays spelling
  intervalAdd : ∃ op, d.slot "interval_add" (·.intervalAdd) = .ok op ∧
    AddsDays (op .day) spelling

section

variable {spelling : Spelling}

theorem numbersDays_around (hlegible : spelling.Legible)
    (hnumbering : ∀ w, spelling.numbering w = w.number) :
    Operation.NumbersDays (.around spelling.dayNumber.1 spelling.dayNumber.2) spelling := by
  intro operand step x h
  rw [dayNumber_monday, ← hnumbering]
  exact h.around fun s hs => hs.number hlegible

theorem cutsDays_around (hlegible : spelling.Legible) :
    Operation.CutsDays (.around spelling.midnight.1 spelling.midnight.2) spelling := by
  intro operand step x h
  exact h.around fun s hs => hs.cut hlegible

/-- Days are added, the operands taken in the order of their texts. -/
def Arithmetic.Spelling.shifting (spelling : Spelling) (amount base : TranslateM String) :
    TranslateM String := do
  if spelling.amountFirst then
    let amount ← amount
    let base ← base
    return spelling.shifted base amount
  else
    let base ← base
    let amount ← amount
    return spelling.shifted base amount

theorem addsDays_shifting (hlegible : spelling.Legible) : AddsDays spelling.shifting spelling := by
  intro operand amount base n x hamount hbase
  rw [Spelling.shifting]
  split
  · exact hamount.bind fun t ht => hbase.bind fun s hs => writes_pure (hs.shift ht hlegible)
  · exact hbase.bind fun s hs => hamount.bind fun t ht => writes_pure (hs.shift ht hlegible)

/-- Sunday as 0, put behind Saturday. -/
theorem sunday_last (x : Int) :
    (((Weekday.ofDays (dayOf x)).number % 7 : Nat) + 6 : Int).tmod 7 + 1 = dayNumber .monday x := by
  rw [dayNumber_monday]
  cases Weekday.ofDays (dayOf x) <;> rfl

end

/-! ## Backends -/

namespace Ansi

def spelling : Spelling where
  dayNumber := ("CAST(EXTRACT(DOW FROM ", ") AS INTEGER)")
  numbering w := (w.number % 7 : Nat)
  midnight := ("DATE_TRUNC('day', ", ")")
  addDays := ("(", " + (", ") * INTERVAL '1' DAY)")
  amountFirst := false

theorem spelling_legible : spelling.Legible := by
  constructor <;> decide

theorem dayOfWeek_numbersDays : dayOfWeek.NumbersDays spelling := by
  intro operand step x h
  refine h.around fun s hs => ?_
  have hopen : "(MOD(CAST(EXTRACT(DOW FROM " = "(" ++ "MOD(" ++ spelling.dayNumber.1 := by decide
  have hclose : ") AS INTEGER) + 6, 7) + 1)" = spelling.dayNumber.2 ++ " + " ++ toString 6 ++ ", " ++
      toString 7 ++ ")" ++ " + " ++ toString 1 ++ ")" := by decide
  have hnumber := hs.number spelling_legible
  have hmod := (hnumber.product.add (Spelling.readsFactor_digits 6).product).mod
    (Spelling.readsFactor_digits 7).sum
  have hall := (hmod.product.add (Spelling.readsFactor_digits 1).product).paren
  rw [hopen, hclose, ← sunday_last x]
  simp only [String.append_assoc] at hall ⊢
  exact hall

theorem truncate_day :
    truncate .day = .around spelling.midnight.1 spelling.midnight.2 := by
  have hopen : spelling.midnight.1 = "DATE_TRUNC('" ++ TruncateUnit.day.name ++ "', " := by decide
  rw [hopen]
  rfl

theorem intervalAdd_day : intervalAdd .day = spelling.shifting := by
  have hclose : spelling.addDays.2.2 = ") * " ++ oneInterval .day ++ ")" := by decide
  have htext : ∀ base amount, spelling.shifted base amount =
      "(" ++ base ++ " + (" ++ amount ++ ") * " ++ oneInterval .day ++ ")" := by
    intro base amount
    rw [Spelling.shifted, if_neg (by decide), hclose]
    simp only [String.append_assoc]
    rfl
  funext amount base
  simp only [Spelling.shifting, htext]
  rfl

theorem tellsDays : Driver.TellsDays ⟨descriptor, []⟩ spelling where
  dayOfWeek := ⟨dayOfWeek, rfl, dayOfWeek_numbersDays⟩
  truncate := ⟨truncate, rfl, truncate_day ▸ cutsDays_around spelling_legible⟩
  intervalAdd := ⟨intervalAdd, rfl, intervalAdd_day ▸ addsDays_shifting spelling_legible⟩

end Ansi

namespace Postgres

/-- Only the number of the day differs from the standard. -/
def spelling : Spelling :=
  { Ansi.spelling with
    dayNumber := ("CAST(EXTRACT(ISODOW FROM ", ") AS INTEGER)")
    numbering := fun w => w.number }

theorem spelling_legible : spelling.Legible := by
  constructor <;> decide

theorem dayOfWeek_eq : dayOfWeek = .around spelling.dayNumber.1 spelling.dayNumber.2 := rfl

theorem dayOfWeek_numbersDays : dayOfWeek.NumbersDays spelling := by
  rw [dayOfWeek_eq]
  exact numbersDays_around spelling_legible fun _ => rfl

theorem truncate_day :
    Ansi.truncate .day = .around spelling.midnight.1 spelling.midnight.2 := Ansi.truncate_day

theorem intervalAdd_day : Ansi.intervalAdd .day = spelling.shifting := Ansi.intervalAdd_day

theorem tellsDays : Driver.TellsDays ⟨descriptor, [Ansi.descriptor]⟩ spelling where
  dayOfWeek := ⟨dayOfWeek, rfl, dayOfWeek_numbersDays⟩
  truncate := ⟨Ansi.truncate, rfl, truncate_day ▸ cutsDays_around spelling_legible⟩
  intervalAdd := ⟨Ansi.intervalAdd, rfl, intervalAdd_day ▸ addsDays_shifting spelling_legible⟩

end Postgres

namespace H2

def spelling : Spelling where
  dayNumber := ("ISO_DAY_OF_WEEK(", ")")
  numbering w := w.number
  midnight := ("PARSEDATETIME(FORMATDATETIME(", ", 'yyyyMMdd'), 'yyyyMMdd')")
  addDays := ("DATEADD('DAY', ", ", ", ")")
  amountFirst := true

theorem spelling_legible : spelling.Legible := by
  constructor <;> decide

theorem dayOfWeek_eq : dayOfWeek = .around spelling.dayNumber.1 spelling.dayNumber.2 := rfl

theorem dayOfWeek_numbersDays : dayOfWeek.NumbersDays spelling := by
  rw [dayOfWeek_eq]
  exact numbersDays_around spelling_legible fun _ => rfl

theorem truncate_day :
    truncate .day = .around spelling.midnight.1 spelling.midnight.2 := by
  have hclose : spelling.midnight.2 = ", '" ++ "yyyyMMdd" ++ "'), '" ++ "yyyyMMdd" ++ "')" := by
    decide
  rw [hclose]
  rfl

theorem intervalAdd_day : intervalAdd .day = spelling.shifting := by
  have hopen : spelling.addDays.1 = "DATEADD('" ++ IntervalUnit.day.keyword ++ "', " := by decide
  have htext : ∀ base amount, spelling.shifted base amount =
      "DATEADD('" ++ IntervalUnit.day.keyword ++ "', " ++ amount ++ ", " ++ base ++ ")" := by
    intro base amount
    rw [Spelling.shifted, if_pos (by decide), hopen]
    simp only [String.append_assoc]
    rfl
  funext amount base
  simp only [Spelling.shifting, htext]
  rfl

theorem tellsDays : Driver.TellsDays ⟨descriptor, [Ansi.descriptor]⟩ spelling where
  dayOfWeek := ⟨dayOfWeek, rfl, dayOfWeek_numbersDays⟩
  truncate := ⟨truncate, rfl, truncate_day ▸ cutsDays_around spelling_legible⟩
  intervalAdd := ⟨intervalAdd, rfl, intervalAdd_day ▸ addsDays_shifting spelling_legible⟩

end H2

namespace Sqlite

def spelling : Spelling where
  dayNumber := ("CAST(strftime('%w', ", ") AS INTEGER)")
  numbering w := (w.number % 7 : Nat)
  midnight := ("strftime('%Y-%m-%d 00:00:00', ", ")")
  addDays := ("datetime(", ", (", ") || ' days')")
  amountFirst := false

theorem spelling_legible : spelling.Legible := by
  constructor <;> decide

theorem dayOfWeek_numbersDays : dayOfWeek.NumbersDays spelling := by
  intro operand step x h
  refine h.around fun s hs => ?_
  have hopen : "((CAST(strftime('%w', " = "(" ++ "(" ++ spelling.dayNumber.1 := by decide
  have hclose : ") AS INTEGER) + 6) % 7 + 1)" = spelling.dayNumber.2 ++ " + " ++ toString 6 ++ ")" ++
      " % " ++ toString 7 ++ " + " ++ toString 1 ++ ")" := by decide
  have hnumber := hs.number spelling_legible
  have hrem := (hnumber.product.add (Spelling.readsFactor_digits 6).product).paren.rem
    (Spelling.readsFactor_digits 7)
  have hall := (hrem.add (Spelling.readsFactor_digits 1).product).paren
  rw [hopen, hclose, ← sunday_last x]
  simp only [String.append_assoc] at hall ⊢
  exact hall

theorem truncate_day :
    truncate .day = .around spelling.midnight.1 spelling.midnight.2 := by
  have hopen : spelling.midnight.1 = "strftime('" ++ "%Y-%m-%d 00:00:00" ++ "', " := by decide
  rw [hopen]
  rfl

theorem intervalAdd_day : intervalAdd .day = spelling.shifting := by
  have hbetween : spelling.addDays.2.1 = ", " ++ "(" := by decide
  have hclose : spelling.addDays.2.2 = ") || ' days'" ++ ")" := by decide
  have htext : ∀ base amount, spelling.shifted base amount = intervalFunction .day ++ base ++ ", " ++
      (modifier .day).1 ++ amount ++ (modifier .day).2 ++ ")" := by
    intro base amount
    rw [Spelling.shifted, if_neg (by decide), hbetween, hclose]
    simp only [String.append_assoc]
    rfl
  funext amount base
  simp only [Spelling.shifting, htext]
  rfl

theorem tellsDays : Driver.TellsDays ⟨descriptor, [Ansi.descriptor]⟩ spelling where
  dayOfWeek := ⟨dayOfWeek, rfl, dayOfWeek_numbersDays⟩
  truncate := ⟨truncate, rfl, truncate_day ▸ cutsDays_around spelling_legible⟩
  intervalAdd := ⟨intervalAdd, rfl, intervalAdd_day ▸ addsDays_shifting spelling_legible⟩

end Sqlite

/-- What a built-in driver says about days, by the documentation of its backend. -/
def Driver.spelling (d : Driver) : Spelling :=
  if d.id = H2.id then H2.spelling
  else if d.id = Postgres.id then Postgres.spelling
  else if d.id = Sqlite.id then Sqlite.spelling
  else Ansi.spelling

theorem tellsDays_of_builtin {d : Driver} (hd : d ∈ Registry.builtin.drivers) :
    d.TellsDays d.spelling := by
  simp only [Registry.drivers, Registry.builtin, List.mem_cons, List.not_mem_nil, or_false] at hd
  obtain rfl | rfl | rfl | rfl := hd
  · exact Ansi.tellsDays
  · exact H2.tellsDays
  · exact Postgres.tellsDays
  · exact Sqlite.tellsDays

/-! ## Weeks -/

namespace Driver

variable {d : Driver} {spelling : Spelling} {operand : Reader Int} {step : TranslateM String}
  {x : Int}

/-- The text that numbers the days anew, from the day that weeks start with. -/
theorem readsFactor_shifted {s : String} (start : Weekday)
    (h : spelling.ReadsFactor operand s (dayNumber .monday x)) :
    spelling.ReadsFactor operand ("(((" ++ s ++ ") + " ++ toString (7 - start.number) ++ ") % 7 + 1)")
      (dayNumber start x) := by
  have hopen : "(((" = "(" ++ "(" ++ "(" := by decide
  have hplus : ") + " = ")" ++ " + " := by decide
  have hclose : ") % 7 + 1)" = ")" ++ " % " ++ toString 7 ++ " + " ++ toString 1 ++ ")" := by decide
  have hshift : spelling.ReadsFactor operand (toString (7 - start.number))
      (7 - start.number : Nat) := Spelling.readsFactor_digits _
  have hrem := (h.sum.paren.product.add hshift.product).paren.rem (Spelling.readsFactor_digits 7)
  have hall := (hrem.add (Spelling.readsFactor_digits 1).product).paren
  rw [hopen, hplus, hclose, ← dayNumber_shift]
  simp only [String.append_assoc] at hall ⊢
  exact hall

theorem writeDayOfWeek_writes (hd : d.TellsDays spelling) (options : TranslateOptions)
    (h : Writes step (spelling.ReadsTime operand · x)) :
    Writes (d.writeDayOfWeek options step)
      (spelling.ReadsFactor operand · (dayNumber options.weekStart x)) := by
  obtain ⟨op, hslot, hop⟩ := hd.dayOfWeek
  rw [writeDayOfWeek, hslot, lift_ok]
  refine (hop operand step x h).bind fun s hs => ?_
  cases hday : options.weekStart with
  | monday => exact writes_pure hs
  | tuesday | wednesday | thursday | friday | saturday | sunday =>
      have hshifted := readsFactor_shifted options.weekStart hs
      rw [hday] at hshifted
      exact writes_pure hshifted

theorem writeTruncateSlot_writes (hd : d.TellsDays spelling)
    (h : Writes step (spelling.ReadsTime operand · x)) :
    Writes (d.writeTruncateSlot .day step) (spelling.ReadsTime operand · (midnight (dayOf x))) := by
  obtain ⟨op, hslot, hop⟩ := hd.truncate
  rw [writeTruncateSlot, hslot, lift_ok]
  exact hop operand step x h

theorem writeIntervalAdd_writes (hd : d.TellsDays spelling) {amount : TranslateM String} {n : Int}
    (hamount : Writes amount (spelling.ReadsSum operand · n))
    (h : Writes step (spelling.ReadsTime operand · x)) :
    Writes (d.writeIntervalAdd .day amount step)
      (spelling.ReadsTime operand · (x + n * dayLength)) := by
  obtain ⟨op, hslot, hop⟩ := hd.intervalAdd
  rw [writeIntervalAdd, hslot, lift_ok]
  exact hop operand amount step n x hamount h

/-- One, less a number. -/
theorem writeBinary_minus_writes {n : Int} (h : Writes step (spelling.ReadsFactor operand · n)) :
    Writes (d.writeBinary .minus (return toString (1 : Int64).toInt) step)
      (spelling.ReadsFactor operand · (1 - n)) := by
  refine h.bind fun s hs => writes_pure ?_
  have hdifference := ((Spelling.readsFactor_digits 1).product.sub hs.product).paren
  simp only [String.append_assoc] at hdifference ⊢
  exact hdifference

theorem writeWeekStart_writes (hd : d.TellsDays spelling) (options : TranslateOptions)
    (h : Writes step (spelling.ReadsTime operand · x)) :
    Writes (d.writeWeekStart options step)
      (spelling.ReadsTime operand · (weekStart options.weekStart x)) := by
  have hnumber := writeDayOfWeek_writes hd options h
  have hamount := (writeBinary_minus_writes (d := d) hnumber).mono fun _ hs => hs.sum
  have hday := writeTruncateSlot_writes hd h
  rw [← midnight_sub_dayNumber]
  exact writeIntervalAdd_writes hd hamount hday

end Driver

/-- What an expression for a point in time becomes when it is asked for days and weeks. -/
structure TellsWeeks (d : Driver) (options : TranslateOptions) (put : Value → TranslateM String)
    (operand : Reader Int) (e : Expr) (x : Int) : Prop where
  /-- This is the day that the others refer to. -/
  isFirst : IsFirst options.weekStart (dayOf x) (firstDay options.weekStart (dayOf x))
  dayOfWeek : Writes (d.write options put (.truncate .dayOfWeek e)) fun s =>
    d.spelling.number? operand s = some (1 + (dayOf x - firstDay options.weekStart (dayOf x)))
  week : Writes (d.write options put (.truncate .week e)) fun s =>
    d.spelling.time? operand s = some (midnight (firstDay options.weekStart (dayOf x)))
  weekOfWeek : Writes (d.write options put (.truncate .week (.truncate .week e))) fun s =>
    d.spelling.time? operand s = some (weekStart options.weekStart x)
  bounds : 1 ≤ dayNumber options.weekStart x ∧ dayNumber options.weekStart x ≤ 7
  le : weekStart options.weekStart x ≤ x
  lt : x < weekStart options.weekStart x + 7 * dayLength
  sameWeek : ∀ y, weekStart options.weekStart x = weekStart options.weekStart y ↔
    SameWeek options.weekStart x y

/-- All built-in drivers tell the same days and weeks, for every start of the week. -/
theorem tellsWeeks_of_builtin {d : Driver} {operand : Reader Int} {e : Expr} {x : Int}
    (hd : d ∈ Registry.builtin.drivers) (options : TranslateOptions)
    (put : Value → TranslateM String)
    (he : Writes (d.write options put e) (d.spelling.ReadsTime operand · x)) :
    TellsWeeks d options put operand e x := by
  have htells := tellsDays_of_builtin hd
  have hweek : Writes (d.write options put (.truncate .week e))
      (d.spelling.ReadsTime operand · (weekStart options.weekStart x)) :=
    Driver.writeWeekStart_writes htells options he
  have htwice : Writes (d.write options put (.truncate .week (.truncate .week e)))
      (d.spelling.ReadsTime operand · (weekStart options.weekStart x)) := by
    have hagain := Driver.writeWeekStart_writes htells options hweek
    rw [weekStart_weekStart] at hagain
    exact hagain
  refine ⟨firstDay_isFirst _ _, ?_, ?_, ?_, dayNumber_bounds _ x, weekStart_le _ x,
    lt_weekStart_add _ x, fun y => weekStart_eq_iff⟩
  · have hnumber := Driver.writeDayOfWeek_writes htells options he
    refine hnumber.mono fun s hs => ?_
    rw [hs.sum.number?_eq, dayNumber, Int.add_comm]
  · exact hweek.mono fun s hs => hs.time?_eq
  · exact htwice.mono fun s hs => hs.time?_eq

/-- On SQLite, with weeks from Sunday on, for a column that holds a Wednesday's afternoon. -/
theorem sqlite_tells_sunday_weeks :
    (⟨Sqlite.descriptor, [Ansi.descriptor]⟩ : Driver) ∈ Registry.builtin.drivers ∧
      TellsWeeks ⟨Sqlite.descriptor, [Ansi.descriptor]⟩ { weekStart := .sunday } (fun _ => pure "?")
        (Spelling.constant "\"ts\"" 1715780700000000000) (.column none "ts")
        1715780700000000000 := by
  have hmem : (⟨Sqlite.descriptor, [Ansi.descriptor]⟩ : Driver) ∈ Registry.builtin.drivers :=
    .tail _ (.tail _ (.tail _ (.head _)))
  refine ⟨hmem, tellsWeeks_of_builtin hmem _ _ fun bound => ⟨"\"ts\"", bound, by rfl, ?_⟩⟩
  exact Spelling.readsTime_constant (by decide) (by decide) _

example : Sqlite.spelling.time? (Spelling.constant "ts" 1715780700000000000)
    "datetime(strftime('%Y-%m-%d 00:00:00', ts), ((1 - ((CAST(strftime('%w', ts) AS INTEGER) + 6) % 7 + 1))) || ' days')" =
      some (midnight 19856) := by decide +kernel

end Sluice
