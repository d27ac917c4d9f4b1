import Sluice.Error

/-!
# Dialects

How a backend writes each operation. An operation on expressions gets its operands as steps that
translate them; it takes the steps, in an order of its own and some of them twice, and puts the
texts together. Values are bound as the steps are taken, so an operation has to take its operands
in the order in which their texts stand.

An empty slot is left to the parent driver.
-/

namespace Sluice

/-- A step of a translation. It can bind values and it can fail, and what was bound stays bound
either way. -/
abbrev TranslateM := ExceptT Error (StateM (List Value))

/-- The result of a step after some values were bound, and all that is bound then. -/
def TranslateM.after (bound : List Value) (step : TranslateM α) : Except Error α × List Value :=
  Id.run (StateT.run (ExceptT.run step) bound)

abbrev Operation := TranslateM String → TranslateM String

/-- Write an operand between two texts. -/
def Operation.around (before after : String) : Operation := fun operand => do
  return before ++ (← operand) ++ after

structure SessionOptions where
  readOnly : Bool := true
  /-- The time zone of the session; none keeps the server's own. -/
  timeZone : Option String := none
deriving DecidableEq, Inhabited

structure Dialect where
  /-- Cut a point in time to a unit. -/
  truncate : Option (TruncateUnit → Operation) := none
  /-- Extract a field as a number. -/
  extract : Option (DateField → Operation) := none
  /-- Add an amount of a unit to a point in time. -/
  intervalAdd : Option (IntervalUnit → (amount base : TranslateM String) → TranslateM String) :=
    none
  /-- Number the day of the week, Monday being 1. -/
  dayOfWeek : Option Operation := none
  /-- Cast to a native type. -/
  cast : Option ((native : String) → Operation) := none
  /-- The placeholder of the parameter with a given number, counted from 1. -/
  placeholder : Option (Nat → String) := none
  /-- Quote a name. -/
  quoteIdentifier : Option (String → String) := none
  /-- Match a text against a regular expression, both already written. -/
  regexMatch : Option ((text pattern : String) → String) := none
  /-- Statements that prepare a session. -/
  sessionSetup : Option (SessionOptions → List String) := none

namespace Dialect

/-- Names of the empty slots, in a fixed order. -/
def missingSlots (d : Dialect) : List String :=
  [("truncate", d.truncate.isSome), ("extract", d.extract.isSome),
    ("interval_add", d.intervalAdd.isSome), ("day_of_week", d.dayOfWeek.isSome),
    ("cast", d.cast.isSome), ("placeholder", d.placeholder.isSome),
    ("quote_identifier", d.quoteIdentifier.isSome), ("regex_match", d.regexMatch.isSome),
    ("session_setup", d.sessionSetup.isSome)].filterMap fun (name, filled) =>
      if filled then none else some name

def isComplete (d : Dialect) : Bool := d.missingSlots.isEmpty

end Dialect

/-- Write `mark` around a text, doubling the marks inside it. -/
def quoteWith (mark : Char) (s : String) : String :=
  String.ofList (mark :: s.toList.flatMap (fun c => if c = mark then [mark, mark] else [c]) ++
    [mark])

def quoteString (s : String) : String := quoteWith '\'' s

def quoteName (s : String) : String := quoteWith '"' s

end Sluice
