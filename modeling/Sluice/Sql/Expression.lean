import Sluice.Sql.DataType

/-!
# Expressions

An expression is an operand followed by operators that bind tighter than what stands before it.
A word that starts a special form is read as a name where the form fails, except for the few
words that are never names.
-/

namespace Sluice.Sql.Grammar

open Rule

/-! ## Literals and names -/

def literal (g : Grammar) : Rule Unit := do
  match ← next with
  | .number | .string | .literal | .placeholder => return ()
  | .escapedString => guard (g.flavor ≠ .sqlite)
  | .symbol ":" | .symbol "@" => token fun
    | .word _ _ | .quotedName | .number => true
    | _ => false
  | _ => failure

/-- A star, alone or qualified by names. -/
def star : Rule Unit := do
  if ← acceptsSymbol "*" then return ()
  name
  symbol "."
  repeated (tried do
    name
    symbol ".")
  symbol "*"

def orderItem (g : Grammar) : Rule Unit := do
  g.expression
  let _ ← acceptsAny ["ASC", "DESC"]
  if ← accepts "NULLS" then guard (← acceptsAny ["FIRST", "LAST"])

/-- `ORDER BY`, if it comes next. -/
def ordering (g : Grammar) : Rule Unit := do
  if ← acceptsAll ["ORDER", "BY"] then commaList g.orderItem

/-! ## Calls -/

def frameBound (g : Grammar) : Rule Unit := do
  if ← acceptsAll ["CURRENT", "ROW"] then return ()
  if !(← accepts "UNBOUNDED") then g.expression
  guard (← acceptsAny ["PRECEDING", "FOLLOWING"])

def window (g : Grammar) : Rule Unit := do
  unless ["PARTITION", "ORDER", "ROWS", "RANGE", "GROUPS"].contains (← peekWord) do optional name
  if ← acceptsAll ["PARTITION", "BY"] then commaList g.expression
  g.ordering
  if ← acceptsAny ["ROWS", "RANGE", "GROUPS"] then
    if ← accepts "BETWEEN" then
      g.frameBound
      keyword "AND"
    g.frameBound
  symbol ")"

/-- `IGNORE NULLS` or `RESPECT NULLS`, if it comes next. -/
def nullTreatment : Rule Unit := optional do
  guard (← acceptsAny ["IGNORE", "RESPECT"])
  keyword "NULLS"

/-- One argument, perhaps named. -/
def argument (g : Grammar) : Rule Unit := do
  optional do
    name
    guard (← acceptsSymbol "=>" <||> acceptsSymbol ":=")
  star <|> g.expression

def arguments (g : Grammar) : Rule Unit := do
  symbol "("
  if ← acceptsSymbol ")" then return ()
  let _ ← acceptsAny ["ALL", "DISTINCT"]
  commaList g.argument
  nullTreatment
  g.ordering
  if ← accepts "LIMIT" then g.expression
  if ← accepts "SEPARATOR" then g.literal
  symbol ")"

def call (g : Grammar) : Rule Unit := do
  g.arguments
  if g.flavor = .generic && (← peek) = some (.symbol "(") then g.arguments
  if ← acceptsAll ["WITHIN", "GROUP"] then parenthesized do
    keywords ["ORDER", "BY"]
    commaList g.orderItem
  if g.flavor ≠ .generic then optional do
    keyword "FILTER"
    parenthesized do
      keyword "WHERE"
      g.expression
  nullTreatment
  if ← accepts "OVER" then
    if ← acceptsSymbol "(" then g.window else name

/-! ## Special forms -/

def neverNames : List String := ["EXISTS", "INTERVAL", "STRUCT", "TRIM"]

def intervalUnits : List String :=
  ["YEAR", "YEARS", "MONTH", "MONTHS", "WEEK", "DAY", "DAYS", "DATE", "DATETIME", "HOUR", "HOURS",
    "MINUTE", "MINUTES", "SECOND", "SECONDS", "CENTURY", "DECADE", "DOW", "DOY", "EPOCH", "ISODOW",
    "ISOYEAR", "ISOWEEK", "JULIAN", "MICROSECOND", "MICROSECONDS", "MILLENIUM", "MILLENNIUM",
    "MILLISECOND", "MILLISECONDS", "NANOSECOND", "NANOSECONDS", "QUARTER", "TIME", "TIMEZONE",
    "TIMEZONE_ABBR", "TIMEZONE_HOUR", "TIMEZONE_MINUTE", "TIMEZONE_REGION", "DAYOFWEEK",
    "DAYOFYEAR"]

/-- A unit of time; other names are units too where the flavor is generous. -/
def dateTimeField (g : Grammar) : Rule Unit := do
  if ← acceptsAny intervalUnits then modifiers
  else
    guard (g.flavor ≠ .sqlite)
    name

def subquery (g : Grammar) : Rule Unit := parenthesized g.query

/-- `CASE`, after that word. -/
def caseForm (g : Grammar) : Rule Unit := do
  if !(← accepts "WHEN") then
    g.expression
    keyword "WHEN"
  let branch : Rule Unit := do
    g.expression
    keyword "THEN"
    g.expression
  branch
  repeated do
    if ← accepts "WHEN" then
      branch
      return true
    return false
  if ← accepts "ELSE" then g.expression
  keyword "END"

/-- `CAST` in its spellings, after that word. -/
def castForm (g : Grammar) : Rule Unit := parenthesized do
  g.expression
  keyword "AS"
  dataType
  if ← accepts "FORMAT" then g.literal

/-- `CONVERT`, after that word. -/
def convertForm (g : Grammar) : Rule Unit := parenthesized do
  g.expression
  if ← accepts "USING" then objectName
  else
    symbol ","
    dataType

/-- `SUBSTRING`, after that word. -/
def substringForm (g : Grammar) : Rule Unit := parenthesized do
  g.expression
  if ← acceptsSymbol "," <||> accepts "FROM" then g.expression
  if ← acceptsSymbol "," <||> accepts "FOR" then g.expression

/-- `TRIM`, after that word. -/
def trimForm (g : Grammar) : Rule Unit := parenthesized do
  let _ ← acceptsAny ["BOTH", "LEADING", "TRAILING"]
  g.expression
  if ← accepts "FROM" then g.expression

/-- `OVERLAY`, after that word. -/
def overlayForm (g : Grammar) : Rule Unit := parenthesized do
  g.expression
  keyword "PLACING"
  g.expression
  keyword "FROM"
  g.expression
  if ← accepts "FOR" then g.expression

/-- `EXTRACT`, after that word. -/
def extractForm (g : Grammar) : Rule Unit := parenthesized do
  g.dateTimeField
  if !(← accepts "FROM") then
    guard (g.flavor = .generic)
    symbol ","
  g.expression

def arrayItems (g : Grammar) : Rule Unit := do
  if ← acceptsSymbol "]" then return ()
  commaList g.expression
  symbol "]"

/-- A special form after its first word; tells whether there is one. The operand rule of the
same level is given, for forms that take an operand of their own. -/
def special (g : Grammar) (operandHere : Rule Unit) (upper : String) : Rule Bool := do
  let form (r : Rule Unit) : Rule Bool := do
    r
    return true
  match upper with
  | "TRUE" | "FALSE" | "NULL" => return true
  | "CURRENT_CATALOG" | "CURRENT_USER" | "SESSION_USER" | "USER" => return g.flavor ≠ .sqlite
  | "CURRENT_TIMESTAMP" | "CURRENT_TIME" | "CURRENT_DATE" | "LOCALTIME" | "LOCALTIMESTAMP" =>
    form do
      if (← peek) = some (.symbol "(") then g.arguments
  | "CASE" => form g.caseForm
  | "CAST" | "TRY_CAST" | "SAFE_CAST" => form g.castForm
  | "CONVERT" => form g.convertForm
  | "EXISTS" => form g.subquery
  | "EXTRACT" => form g.extractForm
  | "CEIL" | "FLOOR" => form <| parenthesized do
      g.expression
      if ← accepts "TO" then g.dateTimeField
  | "POSITION" =>
    if (← peek) = some (.symbol "(") then
      form <| parenthesized do
        g.operand 20
        keyword "IN"
        g.expression
    else return false
  | "SUBSTRING" => form g.substringForm
  | "OVERLAY" => form g.overlayForm
  | "TRIM" => form g.trimForm
  | "INTERVAL" => form do
      operandHere
      if intervalUnits.contains (← peekWord) then
        g.dateTimeField
        if ← accepts "TO" then g.dateTimeField
  | "ARRAY" =>
    match ← peek with
    | some (.symbol "[") => form do
        let _ ← next
        g.arrayItems
    | some (.symbol "(") => form g.subquery
    | _ => return false
  | "NOT" => form do
      if ← accepts "EXISTS" then g.subquery else g.operand 15
  | _ => return false

/-- A word that is no special form: a column, perhaps qualified, or a call. -/
def column (g : Grammar) : Rule Unit := do
  let qualifiers : Rule Bool := do
    if ← acceptsSymbol "." then
      if g.flavor = .postgres && (← acceptsSymbol "*") then return false
      name
      return true
    return false
  repeated qualifiers
  if (← peek) = some (.symbol "(") then g.call

/-- A subquery or expressions in parentheses, and perhaps one field of it. -/
def grouped (g : Grammar) : Rule Unit := do
  parenthesized do
    if ["SELECT", "WITH"].contains (← peekWord) then g.query else commaList g.expression
  if ← acceptsSymbol "." then token fun
    | .word _ _ | .quotedName => true
    | _ => false

def primaryForm (g : Grammar) (operandHere : Rule Unit) : Rule Unit := do
  if ← tried (do
      knownType
      text) then return ()
  match ← peek with
  | some (.word _ upper) => do
    let _ ← next
    (do if !(← g.special operandHere upper) then g.column) <|>
      (do
        guard !(neverNames.contains upper)
        g.column)
  | some .quotedName => do
    let _ ← next
    g.column
  | some (.symbol s) =>
    if s = "[" then
      let _ ← next
      g.arrayItems
    else if s = "+" || s = "-" then
      let _ ← next
      g.operand 40
    else if s = "(" then g.grouped
    else if g.flavor = .postgres && ["!!", "|/", "||/", "@", "~"].contains s then
      let _ ← next
      g.operand 30
    else g.literal
  | _ => g.literal

/-- What may stand before the operators of an expression, and its collation. The depth bounds the
intervals of intervals. -/
def primary (g : Grammar) : (depth : Nat) → Rule Unit
  | 0 => failure
  | depth + 1 => do
    g.primaryForm (g.primary depth)
    if ← accepts "COLLATE" then objectName

/-! ## Operators -/

/-- Symbols of operators and how tightly they bind. -/
def symbolPrecedence (flavor : Flavor) (s : String) : Nat :=
  let special := ["->", "->>", "#>", "#>>", "@>", "<@", "#-", "@?", "@@", "?", "?&", "?|"]
  if special.contains s then 16
  else if flavor = .postgres && ["!", "&&", "^@", "||", "#", ">>", "<<"].contains s then 16
  else if ["=", "<", "<=", "<>", "!=", ">", ">=", "==", "~", "~*", "!~", "!~*", "~~", "~~*", "!~~",
    "!~~*", "<=>"].contains s then 20
  else if s = "|" then 21
  else if ["^", "#", ">>", "<<"].contains s then 22
  else if s = "&" then 23
  else if s = "+" || s = "-" then 30
  else if ["*", "/", "//", "%", "||"].contains s then 40
  else if ["::", "!", "[", "&&", "^@"].contains s then 50
  else 0

/-- Words of operators and how tightly they bind; `NOT` binds as what follows it. -/
def wordPrecedence : String → String → Nat
  | "OR", _ => 5
  | "AND", _ => 10
  | "XOR", _ => 24
  | "AT", "TIME" => 41
  | "NOT", next =>
    if ["IN", "BETWEEN"].contains next then 20
    else if ["LIKE", "ILIKE", "SIMILAR", "REGEXP", "RLIKE"].contains next then 19
    else 0
  | "IS", _ => 17
  | "IN", _ | "BETWEEN", _ | "OPERATOR", _ => 20
  | "LIKE", _ | "ILIKE", _ | "SIMILAR", _ | "REGEXP", _ | "RLIKE", _ => 19
  | "DIV", _ => 40
  | _, _ => 0

/-- How tightly the operator at the front binds; zero when there is none. -/
def precedence (flavor : Flavor) : List Token → Nat
  | .customOperator :: _ => 16
  | .symbol s :: _ => symbolPrecedence flavor s
  | .word _ upper :: .word _ next :: _ => wordPrecedence upper next
  | .word _ upper :: _ => wordPrecedence upper ""
  | _ => 0

/-- Symbols that are no infix operator in a flavor, though they bind. -/
def isInfix (flavor : Flavor) (s : String) : Bool :=
  match s with
  | "<<" | ">>" | "^@" => flavor ≠ .sqlite
  | "#" | "&&" => flavor = .postgres
  | "!" => false
  | _ => true

/-- `ESCAPE` and its character, if they come next. -/
def escape (g : Grammar) : Rule Unit := do
  if ← accepts "ESCAPE" then g.literal

/-- What follows `IS`. -/
def isTail (g : Grammar) : Rule Unit := do
  let _ ← accepts "NOT"
  if ← acceptsAny ["NULL", "TRUE", "FALSE", "UNKNOWN"] then return ()
  keywords ["DISTINCT", "FROM"]
  g.expression

/-- What follows `IN`. -/
def inTail (g : Grammar) : Rule Unit := do
  if ← accepts "UNNEST" then parenthesized g.expression
  else parenthesized do
    if ["SELECT", "WITH"].contains (← peekWord) then g.query
    else if g.flavor = .sqlite && (← peek) = some (.symbol ")") then return ()
    else commaList g.expression

def predicateTail (g : Grammar) : Rule Unit := do
  let _ ← accepts "NOT"
  if ← acceptsAny ["REGEXP", "RLIKE"] then g.operand 19
  else if ← accepts "IN" then g.inTail
  else if ← accepts "BETWEEN" then
    g.operand 20
    keyword "AND"
    g.operand 20
  else if ← acceptsAny ["LIKE", "ILIKE"] then
    let _ ← accepts "ANY"
    g.operand 19
    g.escape
  else
    keywords ["SIMILAR", "TO"]
    g.operand 19
    g.escape

/-- The right side of an infix operator: an operand, or any or all of several. -/
def rightSide (g : Grammar) (precedence : Nat) : Rule Unit := do
  if ← acceptsAny ["ANY", "ALL", "SOME"] then parenthesized do
      if ["SELECT", "WITH"].contains (← peekWord) then g.query else g.operand precedence
  else g.operand precedence

/-- Items of a subscript up to the closing bracket. -/
def subscript (g : Grammar) : Rule Unit := do
  optional g.expression
  if ← acceptsSymbol ":" then optional g.expression
  symbol "]"

def operation (g : Grammar) (precedence : Nat) : Rule Unit := do
  match ← next with
  | .customOperator => g.rightSide precedence
  | .symbol "::" => dataType
  | .symbol "[" => g.subscript
  | .symbol "!" => guard (g.flavor = .postgres)
  | .symbol s => do
    guard (isInfix g.flavor s)
    g.rightSide precedence
  | .word text upper =>
    match upper with
    | "AND" | "OR" | "XOR" => g.rightSide precedence
    | "IS" => g.isTail
    | "AT" => do
      keywords ["TIME", "ZONE"]
      g.operand precedence
    | "OPERATOR" => do
      guard (g.flavor ≠ .sqlite)
      parenthesized do
        optional do
          name
          symbol "."
        let _ ← next
      g.operand precedence
    | "DIV" => failure
    | _ => do
      modify (.word text upper :: ·)
      g.predicateTail
  | _ => failure

/-- An operand and the operators after it that bind tighter than a precedence. -/
def operandAbove (g : Grammar) (precedence : Nat) : Rule Unit := do
  g.primary (← get).length
  repeated do
    let binding := Grammar.precedence g.flavor (← get)
    if binding ≤ precedence then return false
    g.operation binding
    return true

end Sluice.Sql.Grammar
