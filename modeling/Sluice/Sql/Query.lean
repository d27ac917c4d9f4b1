import Sluice.Sql.Expression

/-!
# Queries

`SELECT`, `VALUES`, their combinations, and the common table expressions before them. The
statements that change rows stand here too, because a query may consist of one.
-/

namespace Sluice.Sql.Grammar

open Rule

/-! ## Tables -/

/-- The name of a table expression and of its columns, if there is one. -/
def tableName : Rule Unit := do
  if ← newName tableStops then
    if ← acceptsSymbol "(" then
      commaList do
        name
        optional dataType
      symbol ")"

/-- A query in parentheses, after the opening one, as a table. -/
def derivedTable (g : Grammar) : Rule Unit := do
  g.query
  symbol ")"
  tableName

def namedTable (g : Grammar) : Rule Unit := do
  objectName
  if g.flavor = .generic && (← accepts "PARTITION") then parenthesized (commaList name)
  if ← acceptsSymbol "(" then
    if !(← acceptsSymbol ")") then
      commaList g.argument
      symbol ")"
  optional (keywords ["WITH", "ORDINALITY"])
  tableName
  optional do
    keyword "WITH"
    parenthesized (commaList g.expression)

/-- A table without the joins after it, given the rule for tables with joins. That rule tells
whether it joined anything, or was nothing but a join in parentheses. The answer here is whether
this table is a join in parentheses. -/
def table (g : Grammar) (joined : Rule Bool) : Rule Bool := do
  let plain (r : Rule Unit) : Rule Bool := do
    r
    return false
  if ← accepts "LATERAL" then
    if ← acceptsSymbol "(" then plain g.derivedTable
    else plain do
      objectName
      g.arguments
      tableName
  else if ← acceptsAll ["TABLE"] then plain do
    parenthesized g.expression
    tableName
  else if ← acceptsSymbol "(" then
    if ← tried g.derivedTable then return false
    else
      let isJoin ← joined
      guard (isJoin || g.flavor = .generic)
      symbol ")"
      tableName
      return isJoin
  else if (← peekWord) = "VALUES" && ((← get)[1]?) = some (.symbol "(") && g.flavor = .generic then
    plain do
      keyword "VALUES"
      commaList (parenthesized (commaList g.expression))
      tableName
  else if g.flavor ≠ .sqlite && (← peekWord) = "UNNEST" then plain do
    keyword "UNNEST"
    parenthesized (commaList g.expression)
    optional (keywords ["WITH", "ORDINALITY"])
    tableName
  else plain g.namedTable

/-- The kind of a join, if one comes next; tells whether it takes a condition. -/
def joinKind : Rule (Option Bool) := do
  let _ ← accepts "GLOBAL"
  if ← accepts "CROSS" then
    guard (← acceptsAny ["JOIN", "APPLY"])
    return some false
  if ← acceptsAll ["OUTER", "APPLY"] then return some false
  let natural ← accepts "NATURAL"
  match ← peekWord with
  | "INNER" | "JOIN" => do
    let _ ← accepts "INNER"
    keyword "JOIN"
    return some true
  | "LEFT" | "RIGHT" => do
    let _ ← next
    if !(← accepts "JOIN") then
      guard (← acceptsAny ["OUTER", "SEMI", "ANTI"])
      keyword "JOIN"
    return some true
  | "SEMI" | "ANTI" => do
    let _ ← next
    keyword "JOIN"
    return some true
  | "FULL" => do
    let _ ← next
    let _ ← accepts "OUTER"
    keyword "JOIN"
    return some true
  | "OUTER" => failure
  | _ => do
    guard !natural
    return none

def joinCondition (g : Grammar) : Rule Unit := do
  if ← accepts "ON" then g.expression
  else if ← accepts "USING" then parenthesized (commaList name)

/-- A table and its joins, nested in at most `fuel` parentheses; tells whether it is a join. -/
def tableWithJoins (g : Grammar) : (fuel : Nat) → Rule Bool
  | 0 => failure
  | fuel + 1 => do
    let factor := g.table (g.tableWithJoins fuel)
    let nested ← factor
    let before := (← get).length
    repeated do
      match ← joinKind with
      | none => return false
      | some conditional => do
        let _ ← factor
        if conditional then g.joinCondition
        return true
    return nested || (← get).length < before

def tables (g : Grammar) : Rule Unit := do
  let _ ← g.tableWithJoins ((← get).length + 1)

def singleTable (g : Grammar) : Rule Unit := do
  let _ ← g.table (g.tableWithJoins ((← get).length + 1))

/-! ## Selection -/

/-- What may follow a star: columns to leave out, to replace or to rename. -/
def starOptions (g : Grammar) : Rule Unit := do
  let oneOrMore (item : Rule Unit) : Rule Unit := do
    if (← peek) = some (.symbol "(") then parenthesized (commaList item) else item
  if g.flavor = .generic then
    if ← accepts "ILIKE" then text
    else if ← accepts "EXCLUDE" then oneOrMore name
    if ← accepts "EXCEPT" then oneOrMore name
    if ← accepts "REPLACE" then parenthesized <| commaList do
      g.expression
      let _ ← accepts "AS"
      name
    if ← accepts "RENAME" then oneOrMore do
      name
      keyword "AS"
      name

/-- One column of the result, or all; a bare `FROM` is none. -/
def resultColumn (g : Grammar) : Rule Unit := do
  if ← tried star then g.starOptions
  else
    let start ← get
    g.expression
    match start with
    | .word _ "FROM" :: rest => guard ((← get).length < rest.length)
    | _ => pure ()
    let _ ← newName columnStops

/-- `RETURNING`, if it comes next. -/
def returning (g : Grammar) : Rule Unit := do
  if ← accepts "RETURNING" then commaList g.resultColumn

/-- `WHERE`, if it comes next. -/
def condition (g : Grammar) : Rule Unit := do
  if ← accepts "WHERE" then g.expression

def groupItem (g : Grammar) : Rule Unit := do
  let tuple : Rule Unit := parenthesized do
    if (← peek) ≠ some (.symbol ")") then commaList g.expression
  if g.flavor ≠ .sqlite then
    if ← acceptsAll ["GROUPING", "SETS"] then parenthesized (commaList tuple)
    else if ← tried (do
        guard (← acceptsAny ["CUBE", "ROLLUP"])
        parenthesized (commaList (tuple <|> g.expression))) then return ()
    else if ← tried (do
        symbol "("
        symbol ")") then return ()
    else g.expression
  else g.expression

/-- `GROUP BY`, if it comes next. -/
def grouping (g : Grammar) : Rule Unit := do
  if ← acceptsAll ["GROUP", "BY"] then
    if ← accepts "ALL" then return ()
    commaList g.groupItem
    if g.flavor = .generic then optional do
      keyword "WITH"
      guard (← acceptsAny ["ROLLUP", "CUBE", "TOTALS"])

/-- `SELECT` up to its grouping conditions. -/
def selection (g : Grammar) : Rule Unit := do
  keyword "SELECT"
  if !(← accepts "ALL") then
    if ← acceptsAll ["DISTINCT", "ON"] then parenthesized do
      if (← peek) ≠ some (.symbol ")") then commaList g.expression
    else optional (keyword "DISTINCT")
  if ← accepts "TOP" then
    if ← acceptsSymbol "(" then
      g.expression
      symbol ")"
    else token (· = .number)
  commaList g.resultColumn
  if ← accepts "INTO" then
    let _ ← acceptsAny ["TEMPORARY", "TEMP"]
    let _ ← accepts "UNLOGGED"
    let _ ← accepts "TABLE"
    objectName
  if ← accepts "FROM" then commaList g.tables
  if g.flavor = .generic && (← accepts "PREWHERE") then g.expression
  g.condition
  g.grouping
  if ← accepts "HAVING" then g.expression
  if ← accepts "QUALIFY" then g.expression
  if ← accepts "WINDOW" then commaList do
      name
      keyword "AS"
      symbol "("
      g.window
  if ← accepts "QUALIFY" then g.expression

def valueRows (g : Grammar) : Rule Unit := commaList do
  let _ ← accepts "ROW"
  parenthesized (commaList g.expression)

def queryTerm (g : Grammar) : Rule Unit := do
  match ← peek with
  | some (.word _ "SELECT") => g.selection
  | some (.symbol "(") => g.subquery
  | _ =>
    if ← accepts "VALUES" then g.valueRows
    else
      keyword "TABLE"
      objectName

/-- Queries combined by set operations. -/
def combination (g : Grammar) : Rule Unit := do
  g.queryTerm
  repeated do
    if ← acceptsAny ["UNION", "EXCEPT", "INTERSECT"] then
      let _ ← acceptsAny ["ALL", "DISTINCT"]
      optional (keywords ["BY", "NAME"])
      g.queryTerm
      return true
    return false

def commonTable (g : Grammar) : Rule Unit := do
  name
  if !(← accepts "AS") then
    optionalColumns
    keyword "AS"
  if g.flavor = .postgres then
    if !(← accepts "MATERIALIZED") then optional (keywords ["NOT", "MATERIALIZED"])
  g.subquery
  if ← accepts "FROM" then name

/-- `FETCH`, after that word. -/
def fetchTail (g : Grammar) : Rule Unit := do
  let _ ← acceptsAny ["FIRST", "NEXT"]
  if !(← acceptsAny ["ROW", "ROWS"]) then
    g.literal
    let _ ← accepts "PERCENT"
    guard (← acceptsAny ["ROW", "ROWS"])
  if !(← accepts "ONLY") then keywords ["WITH", "TIES"]

/-- `LIMIT` and `OFFSET`, each at most once and in either order. -/
def bounds (g : Grammar) : Rule Unit := do
  let limit : Rule Bool := do
    if ← accepts "LIMIT" then
      if !(← accepts "ALL") then g.expression
      return true
    return false
  let offset : Rule Bool := do
    if ← accepts "OFFSET" then
      g.expression
      let _ ← acceptsAny ["ROW", "ROWS"]
      return true
    return false
  if ← limit then
    if !(← offset) && g.flavor ≠ .postgres && (← acceptsSymbol ",") then g.expression
  else if ← offset then
    let _ ← limit

def locks : Rule Unit := repeated do
  if ← accepts "FOR" then
    guard (← acceptsAny ["UPDATE", "SHARE"])
    if ← accepts "OF" then objectName
    let _ ← accepts "NOWAIT" <||> acceptsAll ["SKIP", "LOCKED"]
    return true
  return false

/-! ## Changes of rows -/

def assignments (g : Grammar) : Rule Unit := commaList do
  if ← acceptsSymbol "(" then
    commaList objectName
    symbol ")"
  else objectName
  symbol "="
  g.expression

/-- What to do on a conflict, before the table. -/
def conflictClause : Rule Unit := do
  if ← accepts "OR" then
    guard (← acceptsAny ["REPLACE", "ROLLBACK", "ABORT", "FAIL", "IGNORE"])
  else optional (keyword "REPLACE")

/-- What to do on a conflict, after the rows. -/
def onConflict (g : Grammar) : Rule Unit := do
  if ← accepts "CONFLICT" then
    if ← acceptsAll ["ON", "CONSTRAINT"] then objectName else optionalColumns
    keyword "DO"
    if !(← accepts "NOTHING") then
      keywords ["UPDATE", "SET"]
      g.assignments
      g.condition
  else
    keywords ["DUPLICATE", "KEY", "UPDATE"]
    g.assignments

/-- `INSERT`, after that word. -/
def insertTail (g : Grammar) : Rule Unit := do
  conflictClause
  if g.flavor = .generic then
    let _ ← acceptsAny ["LOW_PRIORITY", "DELAYED", "HIGH_PRIORITY"]
    let _ ← accepts "IGNORE"
  let _ ← accepts "OVERWRITE"
  let _ ← accepts "INTO"
  let _ ← accepts "TABLE"
  objectName
  if g.flavor = .postgres && (← accepts "AS") then name
  if !(← acceptsAll ["DEFAULT", "VALUES"]) then
    match ← get with
    | .symbol "(" :: .word _ "SELECT" :: _ => pure ()
    | _ => optionalColumns
    if ← accepts "PARTITION" then parenthesized (commaList g.expression)
    g.query
  if g.flavor = .generic && (← accepts "AS") then
    objectName
    optionalColumns
  if ← accepts "ON" then g.onConflict
  g.returning

/-- `UPDATE`, after that word. -/
def updateTail (g : Grammar) : Rule Unit := do
  conflictClause
  g.tables
  keyword "SET"
  g.assignments
  if ← accepts "FROM" then g.tables
  g.condition
  g.returning

/-- `DELETE`, after that word. -/
def deleteTail (g : Grammar) : Rule Unit := do
  if !(← accepts "FROM") then
    if g.flavor ≠ .generic then
      commaList objectName
      keyword "FROM"
  commaList g.tables
  if ← accepts "USING" then commaList g.tables
  g.condition
  g.returning
  g.ordering
  if ← accepts "LIMIT" then
    if !(← accepts "ALL") then g.expression

/-! ## Whole queries -/

def wholeQuery (g : Grammar) : Rule Unit := do
  if ← accepts "WITH" then
    let _ ← accepts "RECURSIVE"
    commaList g.commonTable
  if ← accepts "INSERT" then g.insertTail
  else if ← accepts "UPDATE" then g.updateTail
  else
    g.combination
    g.ordering
    g.bounds
    if ← accepts "FETCH" then g.fetchTail
    locks
    if g.flavor = .generic && (← accepts "FORMAT") then name

end Sluice.Sql.Grammar
