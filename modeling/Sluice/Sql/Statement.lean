import Sluice.Sql.Definition

/-!
# Statements

Every statement has a class: `Query` for queries, for definitions the first two words of its
normal form, and for all others the first. A statement may spell its first word otherwise than
its normal form does: `END` is a `COMMIT`.
-/

namespace Sluice.Sql.Grammar

open Rule

/-! ## Transactions -/

/-- Isolation and access modes; commas between them may be left out. -/
def transactionModes : Rule Unit := do
  let mode : Rule Unit := do
    if ← acceptsAll ["ISOLATION", "LEVEL"] then
      if !(← accepts "SERIALIZABLE" <||> acceptsAll ["REPEATABLE", "READ"]) then
        keyword "READ"
        guard (← acceptsAny ["UNCOMMITTED", "COMMITTED"])
    else
      keyword "READ"
      guard (← acceptsAny ["ONLY", "WRITE"])
  repeated do
    if ← tried mode then
      if ← acceptsSymbol "," then
        guard (["ISOLATION", "READ"].contains (← peekWord))
      return true
    return false

/-- `AND [NO] CHAIN` after the optional word for a transaction. -/
def chain : Rule Unit := do
  let _ ← acceptsAny ["TRANSACTION", "WORK"]
  if ← accepts "AND" then
    let _ ← accepts "NO"
    keyword "CHAIN"

/-! ## Settings -/

def settingValues (g : Grammar) : Rule Unit := commaList do
  if ["SELECT", "WITH"].contains (← peekWord) then g.query else g.expression

/-- `SET`, after that word. -/
def setTail (g : Grammar) : Rule Unit := do
  let modified ← acceptsAny ["SESSION", "LOCAL"]
  if ← tried (do
      keyword "ROLE"
      name) then return ()
  if ← acceptsAll ["TIME", "ZONE"] then
    if ← acceptsSymbol "=" <||> accepts "TO" then g.settingValues else g.expression
  else if g.flavor = .generic && (← acceptsSymbol "(") then
    commaList name
    symbol ")"
    if !(← acceptsSymbol "=") then keyword "TO"
    parenthesized g.settingValues
  else
    let start ← get
    objectName
    let left ← get
    let single := match start with
      | .word text upper :: rest => if rest.length = left.length then (text, upper) else ("", "")
      | _ => ("", "")
    if single.2 = "NAMES" && g.flavor = .generic then
      if !(← accepts "DEFAULT") then
        text
        if ← accepts "COLLATE" then text
    else if ← acceptsSymbol "=" <||> accepts "TO" then g.settingValues
    else if single.2 = "TIMEZONE" then g.expression
    else if single.1 = "CHARACTERISTICS" then
      keywords ["AS", "TRANSACTION"]
      transactionModes
    else
      guard (single.1 = "TRANSACTION" && !modified)
      if ← accepts "SNAPSHOT" then g.literal else transactionModes

/-- `PRAGMA`, after that word. -/
def pragmaTail : Rule Unit := do
  let setting : Rule Unit := token fun
    | .number | .string | .placeholder => true
    | _ => false
  objectName
  if ← acceptsSymbol "(" then
    setting
    symbol ")"
  else if ← acceptsSymbol "=" then setting

/-! ## Looking around -/

/-- Words of a setting's name: all that is left, up to an equals sign. -/
def restUpToEquals : Rule Unit := do
  modify (·.dropWhile (· ≠ .symbol "="))

def showFilter (g : Grammar) : Rule Unit := do
  if ← acceptsAny ["FROM", "IN"] then
    optional (do guard (← acceptsAny ["DATABASE", "SCHEMA", "TABLE"]))
    objectName
  if ← acceptsAny ["LIKE", "ILIKE"] then text else g.condition

/-- `SHOW`, after that word. -/
def showTail (g : Grammar) : Rule Unit := do
  let _ ← accepts "TERSE"
  let extended ← accepts "EXTENDED"
  let full ← accepts "FULL"
  let _ ← acceptsAny ["SESSION", "GLOBAL"]
  if ← acceptsAny ["COLUMNS", "FIELDS", "TABLES", "VIEWS", "DATABASES", "SCHEMAS"] then
    g.showFilter
    if ← acceptsAny ["FROM", "IN"] then objectName
  else if ← acceptsAll ["MATERIALIZED", "VIEWS"] then g.showFilter
  else if ← acceptsAny ["FUNCTIONS", "COLLATION"] then g.showFilter
  else
    guard (!extended && !full)
    if ← accepts "CREATE" then
      guard (← acceptsAny ["TABLE", "TRIGGER", "FUNCTION", "PROCEDURE", "EVENT", "VIEW"])
      objectName
    else if g.flavor = .generic && (← acceptsAny ["VARIABLES", "STATUS"]) then g.showFilter
    else restUpToEquals

/-- What is explained: a statement, but no explanation of one, or a table. -/
def explainTail (g : Grammar) (utility : Bool) : Rule Unit := do
  if utility && g.flavor ≠ .sqlite && (← peek) = some (.symbol "(") then
    parenthesized (commaList do
      name
      optional g.expression)
  else if !(← acceptsAll ["QUERY", "PLAN"]) then
    let _ ← accepts "ANALYZE"
    let _ ← accepts "VERBOSE"
    if ← accepts "FORMAT" then guard (← acceptsAny ["TEXT", "GRAPHVIZ", "JSON", "TRADITIONAL"])
  let start ← get
  let described ← (some <$> g.statement) <|> return none
  match described with
  | some className => guard !(["EXPLAIN", "DESCRIBE", "DESC"].contains className)
  | none =>
    set start
    let _ ← acceptsAny ["EXTENDED", "FORMATTED"]
    let _ ← accepts "TABLE"
    objectName

/-! ## Prepared statements and calls -/

/-- `EXECUTE`, after that word. -/
def executeTail (g : Grammar) : Rule Unit := do
  objectName
  if ← acceptsSymbol "(" then
    if !(← acceptsSymbol ")") then
      commaList g.expression
      symbol ")"
  else if (← peek).isSome && (← peek) ≠ some (.symbol ";") && (← peekWord) ≠ "USING" then
    commaList g.expression
  if ← accepts "USING" then commaList g.expression

/-- `CALL`, after that word. -/
def callTail (g : Grammar) : Rule Unit := do
  objectName
  if (← peek) = some (.symbol "(") then g.call

/-! ## Copying -/

/-- A truth value that may be left out. -/
def optionalBoolean : Rule Unit := do
  let _ ← acceptsAny ["TRUE", "FALSE"]

/-- One option of `COPY` in parentheses. -/
def copyOption : Rule Unit := do
  if ← accepts "FORMAT" then name
  else if ← acceptsAny ["FREEZE", "HEADER"] then optionalBoolean
  else if ← acceptsAny ["DELIMITER", "NULL", "QUOTE", "ESCAPE", "ENCODING"] then text
  else
    guard (← acceptsAny ["FORCE_QUOTE", "FORCE_NOT_NULL", "FORCE_NULL"])
    parenthesized (commaList name)

/-- One option of `COPY` in the older form. -/
def bareCopyOption : Rule Unit := do
  if ← acceptsAny ["BINARY", "CSV", "HEADER"] then return ()
  else if ← accepts "FORCE" then
    guard (← accepts "QUOTE" <||> acceptsAll ["NOT", "NULL"])
    commaList name
  else
    guard (← acceptsAny ["DELIMITER", "NULL", "QUOTE", "ESCAPE"])
    let _ ← accepts "AS"
    text

/-- `COPY`, after that word. Rows that stand behind the statement are never part of it. -/
def copyTail (g : Grammar) : Rule Unit := do
  if (← peek) = some (.symbol "(") then
    g.subquery
    keyword "TO"
  else
    objectName
    optionalColumns
    guard (← acceptsAny ["FROM", "TO"])
  if ← accepts "PROGRAM" then text
  else if !(← accepts "STDOUT") then text
  let _ ← accepts "WITH"
  if (← peek) = some (.symbol "(") then parenthesized (commaList copyOption)
  repeated (tried bareCopyOption)

/-! ## Cursors -/

/-- `DECLARE`, after that word. -/
def declareTail (g : Grammar) : Rule Unit := do
  name
  let _ ← accepts "BINARY"
  let _ ← acceptsAny ["INSENSITIVE", "ASENSITIVE"]
  if !(← accepts "SCROLL") then optional (keywords ["NO", "SCROLL"])
  keyword "CURSOR"
  if ← acceptsAny ["WITH", "WITHOUT"] then keyword "HOLD"
  keyword "FOR"
  g.query

/-- `FETCH`, after that word. -/
def cursorTail (g : Grammar) : Rule Unit := do
  if ← acceptsAny ["NEXT", "PRIOR", "FIRST", "LAST", "ALL"] then pure ()
  else if ← acceptsAny ["FORWARD", "BACKWARD"] then
    if !(← accepts "ALL") then g.literal
  else
    let _ ← acceptsAny ["ABSOLUTE", "RELATIVE"]
    g.literal
  guard (← acceptsAny ["FROM", "IN"])
  name
  if ← accepts "INTO" then objectName

/-! ## Merging -/

/-- One clause of `MERGE`, if one comes next. -/
def mergeClause (g : Grammar) : Rule Bool := do
  if !(← accepts "WHEN") then return false
  let missing ← accepts "NOT"
  keyword "MATCHED"
  let bySource := missing && (← acceptsAll ["BY", "SOURCE"])
  if missing && !bySource then optional (keywords ["BY", "TARGET"])
  let inserts := missing && !bySource
  if ← accepts "AND" then g.expression
  keyword "THEN"
  if ← accepts "INSERT" then
    guard inserts
    optionalColumns
    if !(← accepts "ROW") then
      keyword "VALUES"
      g.valueRows
  else
    guard !inserts
    if ← accepts "UPDATE" then
      keyword "SET"
      g.assignments
    else keyword "DELETE"
  return true

/-- `MERGE`, after that word. -/
def mergeTail (g : Grammar) : Rule Unit := do
  let _ ← accepts "INTO"
  g.singleTable
  keyword "USING"
  g.singleTable
  keyword "ON"
  g.expression
  repeated g.mergeClause
  guard ((← peek).isNone || (← peek) = some (.symbol ";"))

/-! ## Maintenance -/

def namedSettings (g : Grammar) : Rule Unit := parenthesized <| commaList do
  name
  symbol "="
  g.expression

/-- `FLUSH`, after that word. -/
def flushTail : Rule Unit := do
  let _ ← acceptsAny ["NO_WRITE_TO_BINLOG", "LOCAL"]
  if ← acceptsAny ["BINARY", "ENGINE", "ERROR", "GENERAL", "SLOW"] then keyword "LOGS"
  else if ← acceptsAll ["RELAY", "LOGS"] then
    if ← acceptsAll ["FOR", "CHANNEL"] then objectName
  else if ← accepts "TABLES" then
    unless ["", "WITH", "FOR"].contains (← peekWord) do commaList objectName
    if !(← acceptsAll ["WITH", "READ", "LOCK"]) then optional (keywords ["FOR", "EXPORT"])
  else guard (← acceptsAny
    ["HOSTS", "PRIVILEGES", "LOGS", "OPTIMIZER_COSTS", "STATUS", "USER_RESOURCES"])

/-- `CACHE`, after that word. -/
def cacheTail (g : Grammar) : Rule Unit := do
  if (← peekWord) ≠ "TABLE" then objectName
  keyword "TABLE"
  objectName
  if ← accepts "OPTIONS" then g.namedSettings
  if (← peek).isSome then
    let _ ← accepts "AS"
    g.query

/-- `UNLOAD`, after that word. -/
def unloadTail (g : Grammar) : Rule Unit := do
  g.subquery
  keyword "TO"
  name
  if ← accepts "WITH" then g.namedSettings

/-- `OPTIMIZE`, after that word. -/
def optimizeTail (g : Grammar) : Rule Unit := do
  keyword "TABLE"
  objectName
  if ← acceptsAll ["ON", "CLUSTER"] then name
  if ← accepts "PARTITION" then
    if ← accepts "ID" then name else g.expression
  let _ ← accepts "FINAL"
  if ← accepts "DEDUPLICATE" then
    if ← accepts "BY" then g.expression

/-- `MSCK`, after that word. -/
def repairTail : Rule Unit := do
  let _ ← accepts "REPAIR"
  keyword "TABLE"
  objectName
  if ← acceptsAny ["ADD", "DROP", "SYNC"] then keyword "PARTITIONS"

/-! ## All statements -/

/-- What follows the first word of a statement, and the statement's class. -/
def statementTail (g : Grammar) (head : String) : Rule String := do
  let as (className : String) (r : Rule Unit) : Rule String := do
    r
    return className
  match head with
  | "CREATE" => g.create
  | "ALTER" => g.alter
  | "DROP" => g.drop
  | "INSERT" => as "INSERT" g.insertTail
  | "REPLACE" =>
    match g.flavor with
    | .generic => as "REPLACE" g.insertTail
    | .sqlite => as "INSERT" g.insertTail
    | .postgres => failure
  | "UPDATE" => as "UPDATE" g.updateTail
  | "DELETE" => as "DELETE" g.deleteTail
  | "MERGE" => as "MERGE" g.mergeTail
  | "TRUNCATE" => as "TRUNCATE" do
    let _ ← accepts "TABLE"
    let _ ← accepts "ONLY"
    commaList objectName
  | "EXPLAIN" => as "EXPLAIN" (g.explainTail true)
  | "DESCRIBE" => as "DESCRIBE" (g.explainTail false)
  | "DESC" => as "DESC" (g.explainTail false)
  | "SHOW" => as "SHOW" g.showTail
  | "SET" => as "SET" g.setTail
  | "USE" => as "USE" objectName
  | "PRAGMA" => as "PRAGMA" pragmaTail
  | "BEGIN" => as "BEGIN" do
    if g.flavor ≠ .postgres then
      let _ ← acceptsAny ["DEFERRED", "IMMEDIATE", "EXCLUSIVE"]
    let _ ← acceptsAny ["TRANSACTION", "WORK"]
    transactionModes
  | "START" => as "START" do
    keyword "TRANSACTION"
    transactionModes
  | "COMMIT" | "END" => as "COMMIT" chain
  | "ROLLBACK" => as "ROLLBACK" do
    chain
    if ← accepts "TO" then
      let _ ← accepts "SAVEPOINT"
      name
  | "SAVEPOINT" => as "SAVEPOINT" name
  | "RELEASE" => as "RELEASE" do
    let _ ← accepts "SAVEPOINT"
    name
  | "CALL" => as "CALL" g.callTail
  | "EXECUTE" | "EXEC" => as "EXECUTE" g.executeTail
  | "PREPARE" => as "PREPARE" do
    name
    if ← acceptsSymbol "(" then
      commaList dataType
      symbol ")"
    keyword "AS"
    let _ ← g.statement
  | "DEALLOCATE" => as "DEALLOCATE" do
    let _ ← accepts "PREPARE"
    name
  | "COPY" => as "COPY" g.copyTail
  | "DECLARE" => as "DECLARE" g.declareTail
  | "FETCH" => as "FETCH" g.cursorTail
  | "CLOSE" => as "CLOSE" name
  | "LISTEN" => as "LISTEN" do
    guard (g.flavor = .postgres)
    name
  | "NOTIFY" => as "NOTIFY" do
    guard (g.flavor = .postgres)
    name
    if ← acceptsSymbol "," then text
  | "DISCARD" => as "DISCARD" do
    guard (← acceptsAny ["ALL", "PLANS", "SEQUENCES", "TEMP", "TEMPORARY"])
  | "ANALYZE" => as "ANALYZE" do
    keyword "TABLE"
    objectName
  | "ATTACH" => as "ATTACH" do
    let _ ← accepts "DATABASE"
    g.expression
    keyword "AS"
    name
  | "DETACH" => as "DETACH" do
    guard (g.flavor = .generic)
    let _ ← accepts "DATABASE"
    optional (keywords ["IF", "EXISTS"])
    name
  | "FLUSH" => as "FLUSH" do
    guard (g.flavor = .generic)
    flushTail
  | "CACHE" => as "CACHE" g.cacheTail
  | "UNCACHE" => as "UNCACHE" do
    keyword "TABLE"
    optional (keywords ["IF", "EXISTS"])
    objectName
  | "MSCK" => as "MSCK" repairTail
  | "UNLOAD" => as "UNLOAD" g.unloadTail
  | "INSTALL" | "LOAD" => as head do
    guard (g.flavor = .generic)
    name
  | "OPTIMIZE" => as "OPTIMIZE" do
    guard (g.flavor = .generic)
    g.optimizeTail
  | "ASSERT" => as "ASSERT" do
    g.expression
    if ← accepts "AS" then g.expression
  | "KILL" => as "KILL" do
    let _ ← acceptsAny ["CONNECTION", "QUERY"] <||>
      (pure (g.flavor = .generic) <&&> accepts "MUTATION")
    token (· = .number)
  | _ => failure

def wholeStatement (g : Grammar) : Rule String := do
  match ← peek with
  | some (.symbol "(") => do
    g.query
    return "Query"
  | some (.word _ upper) =>
    if ["SELECT", "WITH", "VALUES"].contains upper then do
      g.query
      return "Query"
    else do
      let _ ← next
      g.statementTail upper
  | _ => failure

end Sluice.Sql.Grammar
