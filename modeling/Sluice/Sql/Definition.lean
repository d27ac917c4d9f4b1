import Sluice.Sql.Query

/-!
# Definitions of schema objects

Statements that create, alter and drop. Only the common forms are recognised: a definition that
is not recognised is still told by its first words.
-/

namespace Sluice.Sql.Grammar

open Rule

/-! ## Columns and constraints -/

/-- What happens to rows that refer to a changed one. -/
def referentialActions : Rule Unit := repeated do
  if ← accepts "ON" then
    guard (← acceptsAny ["DELETE", "UPDATE"])
    if !(← acceptsAny ["RESTRICT", "CASCADE"]) then
      if !(← acceptsAll ["NO", "ACTION"]) then
        keyword "SET"
        guard (← acceptsAny ["NULL", "DEFAULT"])
    return true
  return false

def characteristics : Rule Unit := do
  let _ ← accepts "DEFERRABLE" <||> acceptsAll ["NOT", "DEFERRABLE"]
  if ← accepts "INITIALLY" then guard (← acceptsAny ["DEFERRED", "IMMEDIATE"])

/-- `REFERENCES`, after that word. -/
def references : Rule Unit := do
  objectName
  optionalColumns
  referentialActions
  characteristics

/-- One option of a column, if one comes next. -/
def columnOption (g : Grammar) : Rule Bool := do
  let form (r : Rule Unit) : Rule Bool := do
    r
    return true
  if ← acceptsAll ["NOT", "NULL"] then return true
  else if ← accepts "NULL" then return true
  else if ← accepts "DEFAULT" then form g.expression
  else if ← acceptsAll ["PRIMARY", "KEY"] then form characteristics
  else if ← accepts "UNIQUE" then form characteristics
  else if ← accepts "REFERENCES" then form references
  else if ← accepts "CHECK" then form (parenthesized g.expression)
  else if ← accepts "COMMENT" then form text
  else if ← acceptsAll ["CHARACTER", "SET"] then form objectName
  else if ← accepts "COLLATE" then form objectName
  else if ← acceptsAll ["GENERATED", "ALWAYS", "AS", "IDENTITY"] then return true
  else if ← acceptsAll ["GENERATED", "BY", "DEFAULT", "AS", "IDENTITY"] then return true
  else if ← acceptsAll ["GENERATED", "ALWAYS", "AS"] then form do
      parenthesized g.expression
      let _ ← acceptsAny ["STORED", "VIRTUAL"]
  else if g.flavor ≠ .postgres then
    acceptsAny ["AUTO_INCREMENT", "AUTOINCREMENT", "ASC", "DESC"]
  else return false

/-- Words that follow the name of a column without a type. -/
def untypedFollowers : List String :=
  ["CONSTRAINT", "PRIMARY", "NOT", "UNIQUE", "CHECK", "DEFAULT", "COLLATE", "REFERENCES",
    "GENERATED", "AS"]

def columnDefinition (g : Grammar) : Rule Unit := do
  name
  let untyped := g.flavor = .sqlite && match (← get).head? with
    | some (.word _ upper) => untypedFollowers.contains upper
    | _ => true
  if !untyped then dataType
  repeated do
    if ← accepts "CONSTRAINT" then
      name
      guard (← g.columnOption)
      return true
    g.columnOption

def tableConstraint (g : Grammar) : Rule Unit := do
  if ← accepts "CONSTRAINT" then name
  if ← acceptsAll ["PRIMARY", "KEY"] then
    parenthesized (commaList name)
    characteristics
  else if ← accepts "UNIQUE" then
    let _ ← acceptsAny ["KEY", "INDEX"]
    if (← peek) ≠ some (.symbol "(") then name
    parenthesized (commaList name)
    characteristics
  else if ← acceptsAll ["FOREIGN", "KEY"] then
    parenthesized (commaList name)
    keyword "REFERENCES"
    references
  else
    keyword "CHECK"
    parenthesized g.expression

def tableBody (g : Grammar) : Rule Unit := do
  symbol "("
  if ← acceptsSymbol ")" then return ()
  commaList do
    if !(← tried g.tableConstraint) then g.columnDefinition
  symbol ")"

/-! ## Creating -/

/-- `IF NOT EXISTS`, if it comes next. -/
def ifNotExists : Rule Unit := optional (keywords ["IF", "NOT", "EXISTS"])

/-- `CREATE TABLE`, after these words. -/
def createTable (g : Grammar) : Rule Unit := do
  ifNotExists
  objectName
  if ← accepts "LIKE" then objectName
  else if (← peek) = some (.symbol "(") then g.tableBody
  if ← acceptsAll ["WITHOUT", "ROWID"] then pure ()
  if ← accepts "STRICT" then pure ()
  if ← accepts "AS" then g.query

/-- `CREATE VIEW`, after these words. -/
def createView (g : Grammar) : Rule Unit := do
  ifNotExists
  objectName
  optionalColumns
  keyword "AS"
  g.query
  optional (keywords ["WITH", "NO", "SCHEMA", "BINDING"])

/-- `CREATE INDEX`, after these words. -/
def createIndex (g : Grammar) : Rule Unit := do
  let _ ← accepts "CONCURRENTLY"
  ifNotExists
  if (← peekWord) ≠ "ON" then objectName
  keyword "ON"
  objectName
  if ← accepts "USING" then name
  parenthesized (commaList g.orderItem)
  if ← accepts "INCLUDE" then parenthesized (commaList name)
  g.condition

/-- `CREATE SEQUENCE`, after these words. -/
def createSequence (g : Grammar) : Rule Unit := do
  ifNotExists
  objectName
  if ← accepts "AS" then dataType
  if ← accepts "INCREMENT" then
    let _ ← accepts "BY"
    g.expression
  for bound in ["MINVALUE", "MAXVALUE"] do
    if ← accepts bound then g.expression else optional (keywords ["NO", bound])
  if ← accepts "START" then
    let _ ← accepts "WITH"
    g.expression
  if ← accepts "CACHE" then g.expression
  if !(← acceptsAll ["NO", "CYCLE"]) then optional (keyword "CYCLE")
  if ← acceptsAll ["OWNED", "BY"] then objectName

/-- `CREATE`, after that word: the class of the statement. Words before the object come in this
order, and the first of them is the class's second word. -/
def create (g : Grammar) : Rule String := do
  let replace ← acceptsAll ["OR", "REPLACE"]
  let temporary ← acceptsAny ["TEMPORARY", "TEMP"]
  let qualified (object : String) : String :=
    "CREATE " ++ if replace then "OR" else if temporary then "TEMPORARY" else object
  if ← accepts "TABLE" then
    g.createTable
    return qualified "TABLE"
  if ← acceptsAll ["MATERIALIZED", "VIEW"] then
    g.createView
    return "CREATE " ++ if replace then "OR" else "MATERIALIZED"
  if ← accepts "VIEW" then
    g.createView
    return qualified "VIEW"
  guard !replace
  if ← accepts "SEQUENCE" then
    g.createSequence
    return qualified "SEQUENCE"
  guard !temporary
  if ← acceptsAll ["UNIQUE", "INDEX"] then
    g.createIndex
    return "CREATE UNIQUE"
  if ← accepts "INDEX" then
    g.createIndex
    return "CREATE INDEX"
  if ← accepts "SCHEMA" then
    ifNotExists
    objectName
    if ← accepts "AUTHORIZATION" then name
    return "CREATE SCHEMA"
  keyword "DATABASE"
  ifNotExists
  objectName
  return "CREATE DATABASE"

/-! ## Altering and dropping -/

/-- `ALTER`, after that word. -/
def alter (g : Grammar) : Rule String := do
  keyword "TABLE"
  optional (keywords ["IF", "EXISTS"])
  let _ ← accepts "ONLY"
  objectName
  commaList do
    if ← accepts "ADD" then
      if !(← tried g.tableConstraint) then
        let _ ← accepts "COLUMN"
        ifNotExists
        g.columnDefinition
    else if ← accepts "RENAME" then
      if ← accepts "TO" then objectName
      else
        let _ ← acceptsAny ["COLUMN", "CONSTRAINT"]
        name
        keyword "TO"
        name
    else if ← accepts "DROP" then
      let _ ← acceptsAny ["COLUMN", "CONSTRAINT"]
      optional (keywords ["IF", "EXISTS"])
      name
      let _ ← acceptsAny ["CASCADE", "RESTRICT"]
    else
      keyword "ALTER"
      let _ ← accepts "COLUMN"
      name
      if !(← acceptsAll ["SET", "NOT", "NULL"] <||> acceptsAll ["DROP", "NOT", "NULL"]
          <||> acceptsAll ["DROP", "DEFAULT"]) then
        if ← acceptsAll ["SET", "DEFAULT"] then g.expression
        else
          optional (keywords ["SET", "DATA"])
          keyword "TYPE"
          dataType
          if ← accepts "USING" then g.expression
  return "ALTER TABLE"

def droppable : List String :=
  ["TABLE", "VIEW", "INDEX", "ROLE", "SCHEMA", "DATABASE", "SEQUENCE", "STAGE", "TYPE"]

/-- `DROP`, after that word. -/
def drop (g : Grammar) : Rule String := do
  let temporary := g.flavor = .generic && (← accepts "TEMPORARY")
  let object ← peekWord
  guard (← acceptsAny droppable)
  optional (keywords ["IF", "EXISTS"])
  commaList objectName
  let cascade ← accepts "CASCADE"
  let restrict ← accepts "RESTRICT"
  let purge ← accepts "PURGE"
  guard !(cascade && restrict)
  guard !(object = "ROLE" && (cascade || restrict || purge))
  return "DROP " ++ if temporary then "TEMPORARY" else object

end Sluice.Sql.Grammar
