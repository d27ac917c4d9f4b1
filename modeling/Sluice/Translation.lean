import Sluice.Interval
import Sluice.Plan

/-!
# Translation to a dialect

An expression is translated from the leaves up. On the way values are bound one after the other, and
a placeholder with the number of its value stands in the text. The first operation without a form
in the dialect stops the translation.

What stands for a value that is not written out is a parameter of these functions: a placeholder
when a statement is prepared.
-/

namespace Sluice

structure TranslateOptions where
  /-- The day that numbers as 1 and starts truncated weeks. -/
  weekStart : Weekday := .monday
deriving DecidableEq, Inhabited

/-- An ASCII identifier: a letter or underscore, then letters, digits and underscores. -/
def isPlainIdentifier (name : String) : Bool :=
  match name.toList with
  | [] => false
  | c :: rest => (c.isAlpha || c = '_') && rest.all Text.isWordChar

/-- A decimal: an optional minus, digits, and at most one point among them. -/
def isDecimalLiteral (s : String) : Bool :=
  let digits := match s.toList with
    | '-' :: rest => rest
    | cs => cs
  digits.countP (· = '.') ≤ 1 && digits.all (fun c => c.isDigit || c = '.') &&
    digits.any Char.isDigit

/-- Texts with a comma and a blank between each two. -/
def commaSeparated : List String → String
  | [] => ""
  | [s] => s
  | s :: rest => s ++ ", " ++ commaSeparated rest

namespace Driver

/-! ## Leaves -/

/-- Bind a value as the next parameter; its placeholder is the text. -/
def bind (d : Driver) (value : Value) : TranslateM String := do
  let placeholder ← d.slot "placeholder" (·.placeholder)
  modify (· ++ [value])
  return placeholder (← get).length

def writeName (d : Driver) (name : String) : TranslateM String := do
  let quote ← d.slot "quote_identifier" (·.quoteIdentifier)
  return quote name

/-- A column, with its table if it has one. -/
def writeColumn (d : Driver) (table : Option String) (name : String) : TranslateM String := do
  let column ← d.writeName name
  match table with
  | none => return column
  | some table => return (← d.writeName table) ++ "." ++ column

/-- A literal: numbers and truth values are written out, for all else stands what `put` gives. -/
def writeLiteral (put : Value → TranslateM String) : Value → TranslateM String
  | .null => return "NULL"
  | .bool b => return if b then "TRUE" else "FALSE"
  | .int n => return toString n.toInt
  | .float x =>
    if x.isFinite then return toString x else throw (.translation (.nonFiniteNumber x))
  | .decimal digits =>
    if isDecimalLiteral digits then return digits
    else throw (.translation (.invalidDecimal digits))
  | value => put value

/-! ## Operations -/

/-- The number of the day of the week, `weekStart` being day 1. -/
def writeDayOfWeek (d : Driver) (options : TranslateOptions) : Operation := fun operand => do
  let dayOfWeek ← d.slot "day_of_week" (·.dayOfWeek)
  let iso ← dayOfWeek operand
  match options.weekStart with
  | .monday => return iso
  | day => return "(((" ++ iso ++ ") + " ++ toString (7 - day.number) ++ ") % 7 + 1)"

/-- An interval added, in a unit that the dialect takes. -/
def writeIntervalAdd (d : Driver) (unit : IntervalUnit) (amount base : TranslateM String) :
    TranslateM String := do
  let intervalAdd ← d.slot "interval_add" (·.intervalAdd)
  intervalAdd unit amount base

def writeInfix (token : String) (left right : TranslateM String) : TranslateM String := do
  let left ← left
  let right ← right
  return "(" ++ left ++ " " ++ token ++ " " ++ right ++ ")"

/-- A match against a regular expression, for the drivers that have them. -/
def writeRegexMatch (d : Driver) (left right : TranslateM String) : TranslateM String := do
  if d.capability .regex then
    let regexMatch ← d.slot "regex_match" (·.regexMatch)
    let left ← left
    let right ← right
    return regexMatch left right
  else throw (.notSupported (.regularExpressions d.displayName))

def writeBinary (d : Driver) (op : BinaryOperator) (left right : TranslateM String) :
    TranslateM String :=
  if op = .regexMatch then d.writeRegexMatch left right
  else
    match op.token? with
    | some token => writeInfix token left right
    | none => throw (.translation (.noInfixForm op))

def writeTruncateSlot (d : Driver) (unit : TruncateUnit) : Operation := fun operand => do
  let truncate ← d.slot "truncate" (·.truncate)
  truncate unit operand

def writeExtract (d : Driver) (field : DateField) : Operation := fun operand => do
  let extract ← d.slot "extract" (·.extract)
  extract field operand

/-- The start of the week: the day, less as many days as the number of the day of the week is
above 1. -/
def writeWeekStart (d : Driver) (options : TranslateOptions) : Operation := fun operand =>
  d.writeIntervalAdd .day
    (d.writeBinary .minus (return toString (1 : Int64).toInt) (d.writeDayOfWeek options operand))
    (d.writeTruncateSlot .day operand)

def writeTruncate (d : Driver) (options : TranslateOptions) (unit : TruncateUnit) : Operation :=
  match unit with
  | .week => d.writeWeekStart options
  | .dayOfWeek => d.writeDayOfWeek options
  | unit =>
    match unit.extractionField? with
    | some field => d.writeExtract field
    | none => d.writeTruncateSlot unit

/-- A cast, for the types with a native name. -/
def writeCast (d : Driver) (target : SemanticType) : Operation := fun operand => do
  match d.nativeType? target with
  | none => throw (.translation (.noNativeType d.displayName target))
  | some native =>
    let cast ← d.slot "cast" (·.cast)
    cast native operand

def writeCall (function : String) : Operation := fun operand => do
  if isPlainIdentifier function then Operation.around (function ++ "(") ")" operand
  else throw (.translation (.invalidFunctionName function))

def writeAmount (d : Driver) (put : Value → TranslateM String) (form : AmountForm) : Operation :=
  fun amount =>
    match form with
    | .same => amount
    | .literal value => writeLiteral put value
    | .times factor => d.writeBinary .multiply amount (writeLiteral put (.int factor))

/-! ## Expressions -/

def write (d : Driver) (options : TranslateOptions) (put : Value → TranslateM String) :
    Expr → TranslateM String
  | .literal value => writeLiteral put value
  | .column table name => d.writeColumn table name
  | .truncate unit expr => d.writeTruncate options unit (d.write options put expr)
  | .intervalAdd unit amount expr => do
    let (unit, form) ← Interval.normalForm d unit amount
    d.writeIntervalAdd unit (d.writeAmount put form (d.write options put amount))
      (d.write options put expr)
  | .cast target expr => d.writeCast target (d.write options put expr)
  | .unary function arg => writeCall function (d.write options put arg)
  | .binary op left right => d.writeBinary op (d.write options put left) (d.write options put right)

/-! ## Plans -/

def writeProjection (d : Driver) (options : TranslateOptions) (put : Value → TranslateM String)
    (p : Projection) : TranslateM String := do
  let text ← d.write options put p.expr
  match p.label with
  | none => return text
  | some label => return text ++ " AS " ++ (← d.writeName label)

def writeSource (d : Driver) (t : TableRef) : TranslateM String := do
  match t.schema with
  | none => d.writeName t.name
  | some schema => return (← d.writeName schema) ++ "." ++ (← d.writeName t.name)

/-- The columns of the result; all of them when none is named. -/
def writeColumns (d : Driver) (options : TranslateOptions) (put : Value → TranslateM String)
    (ps : List Projection) : TranslateM String := do
  if ps.isEmpty then return "*"
  else return commaSeparated (← ps.mapM (d.writeProjection options put))

/-- The condition on rows, if there is one. -/
def writeFilter (d : Driver) (options : TranslateOptions) (put : Value → TranslateM String)
    (filter : Option Expr) : TranslateM String := do
  match filter with
  | none => return ""
  | some condition => return " WHERE " ++ (← d.write options put condition)

/-- The grouping expressions, if there are any. -/
def writeGroups (d : Driver) (options : TranslateOptions) (put : Value → TranslateM String)
    (groupBy : List Expr) : TranslateM String := do
  if groupBy.isEmpty then return ""
  else return " GROUP BY " ++ commaSeparated (← groupBy.mapM (d.write options put))

/-- The bound on the number of rows, if there is one. -/
def limitText (limit : Option UInt64) : String :=
  match limit with
  | none => ""
  | some n => " LIMIT " ++ toString n.toNat

/-- Write a plan, every clause in the order of the text. -/
def writePlan (d : Driver) (options : TranslateOptions) (put : Value → TranslateM String)
    (p : Plan) : TranslateM String := do
  let columns ← d.writeColumns options put p.projections
  let source ← d.writeSource p.source
  let filter ← d.writeFilter options put p.filter
  let groups ← d.writeGroups options put p.groupBy
  return "SELECT " ++ columns ++ " FROM " ++ source ++ filter ++ groups ++ limitText p.limit

end Driver

/-! ## Statements -/

/-- SQL with the values bound to its placeholders. -/
structure Statement where
  sql : String
  parameters : List Value
deriving DecidableEq, Inhabited

/-- A translation in progress: the parameters bound so far. -/
structure Translator where
  driver : Driver
  options : TranslateOptions
  parameters : List Value := []

namespace Translator

/-- Take a step. What it binds stays bound, also when it fails. -/
def take (t : Translator) (step : TranslateM String) : Except Error String × Translator :=
  let (result, parameters) := step.after t.parameters
  (result, { t with parameters })

def translate (t : Translator) (e : Expr) : Except Error String × Translator :=
  t.take (t.driver.write t.options t.driver.bind e)

def bind (t : Translator) (value : Value) : Except Error String × Translator :=
  t.take (t.driver.bind value)

def quoteName (t : Translator) (name : String) : Except Error String :=
  (t.driver.slot "quote_identifier" (·.quoteIdentifier)).map fun quote => quote name

def finish (t : Translator) (sql : String) : Statement := ⟨sql, t.parameters⟩

end Translator

def Driver.statement (d : Driver) (step : TranslateM String) : Except Error Statement :=
  let (text, t) := Translator.take { driver := d, options := {} } step
  text.map t.finish

def Expr.compile (d : Driver) (options : TranslateOptions) (e : Expr) : Except Error Statement :=
  d.statement (d.write options d.bind e)

def Plan.compile (d : Driver) (options : TranslateOptions) (p : Plan) : Except Error Statement :=
  d.statement (d.writePlan options d.bind p)

def Query.compile (d : Driver) (options : TranslateOptions) : Query → Except Error Statement
  | .native sql params => .ok ⟨sql, params⟩
  | .plan p => p.compile d options

end Sluice
