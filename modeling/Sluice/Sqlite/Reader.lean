import Sluice.Sqlite.Command

/-!
# Reading commands

Rules take tokens from the front and build terms and commands. Parameters are counted on the way.
The part of SQL that is read: constants and simple terms, one table per command, `CREATE TABLE`,
`DROP TABLE`, `INSERT ... VALUES`, `UPDATE`, `DELETE` and `PRAGMA`.
-/

namespace Sluice.Sqlite

open Text

namespace Reader

/-- What is left to read, and the parameters seen so far. -/
structure State where
  tokens : List Token
  /-- The highest parameter. -/
  parameters : Nat := 0
  /-- Named parameters with their numbers. -/
  names : List (String × Nat) := []

abbrev Rule (α : Type) := StateT State Option α

/-- Names that are never bare names of columns and tables. -/
def reserved : List String :=
  ["ADD", "ALL", "ALTER", "AND", "AS", "AUTOINCREMENT", "BETWEEN", "CASE", "CHECK", "COLLATE",
    "COMMIT", "CONSTRAINT", "CREATE", "DEFAULT", "DEFERRABLE", "DELETE", "DISTINCT", "DROP", "ELSE",
    "ESCAPE", "EXISTS", "FOREIGN", "FROM", "GROUP", "HAVING", "IN", "INDEX", "INSERT", "INTERSECT",
    "INTO", "IS", "ISNULL", "JOIN", "LIMIT", "NOT", "NOTNULL", "NULL", "ON", "OR", "ORDER",
    "PRIMARY", "REFERENCES", "RETURNING", "SELECT", "SET", "TABLE", "THEN", "TO", "TRANSACTION",
    "UNION", "UNIQUE", "UPDATE", "USING", "VALUES", "WHEN", "WHERE"]

/-- The next token, left where it is. -/
def peek : Rule (Option Token) := return (← get).tokens.head?

def next : Rule Token := do
  match (← get).tokens with
  | [] => failure
  | t :: rest =>
    modify fun s => { s with tokens := rest }
    return t

/-- Take the next token if it satisfies a condition. -/
def token (p : Token → Bool) : Rule Token := do
  let t ← next
  guard (p t)
  return t

def keyword (k : String) : Rule Unit := do
  let _ ← token (Token.isKeyword k)

def symbol (s : String) : Rule Unit := do
  let _ ← token (Token.isSymbol s)

/-- Whether a rule applies; nothing is taken when it does not. -/
def tried (r : Rule Unit) : Rule Bool := (do r; return true) <|> return false

def optional (r : Rule α) : Rule (Option α) := (some <$> r) <|> return none

def commaList (r : Rule α) : (fuel : Nat) → Rule (List α)
  | 0 => failure
  | fuel + 1 => do
    let a ← r
    if ← tried (symbol ",") then return a :: (← commaList r fuel) else return [a]

def remaining : Rule Nat := return (← get).tokens.length + 1

def parenthesized (r : Rule α) : Rule (List α) := do
  symbol "("
  let items ← commaList r (← remaining)
  symbol ")"
  return items

def isBareName (t : Token) : Bool :=
  t.kind = .word && !reserved.any fun k => eqIgnoreCase k t.content

/-- A name: bare, quoted or even written as a text. -/
def name : Rule String := do
  let t ← token fun t =>
    isBareName t || t.kind = .quoted true || t.kind = .quoted false || t.kind = .string
  return t.content

/-- A name of a table, with or without the name of the main database before it. -/
def tableName : Rule String := do
  let n ← name
  if ← tried (symbol ".") then
    guard (eqIgnoreCase n "main")
    name
  else return n

/-! ## Terms -/

def parameterIndex (spelled : String) : Rule Nat := do
  let s ← get
  match spelled.toList with
  | ['?'] =>
    set { s with parameters := s.parameters + 1 }
    return s.parameters + 1
  | '?' :: digits =>
    let n := digits.foldl (fun n c => n * 10 + (c.toNat - '0'.toNat)) 0
    guard (1 ≤ n && n ≤ 32766)
    set { s with parameters := max s.parameters n }
    return n
  | _ =>
    match s.names.lookup spelled with
    | some n => return n
    | none =>
      let n := s.parameters + 1
      set { s with parameters := n, names := (spelled, n) :: s.names }
      return n

def numberCell (spelled : String) (negative : Bool) : Cell :=
  let sign := if negative then "-" else ""
  match spelled.toList with
  | '0' :: x :: digits =>
    if x = 'x' || x = 'X' then
      let n := digits.foldl (fun n c => n * 16 + (hexDigit? c).getD 0) 0
      .integer (.ofInt (if negative then -(n : Int) else n))
    else (Cell.number? (sign ++ spelled)).getD .null
  | _ => (Cell.number? (sign ++ spelled)).getD .null

/-- The operators of each level, loosest first; levels 2 and 3 have rules of their own too. -/
def operatorsAt : Nat → List (String × Operator)
  | 0 => [("OR", .or)]
  | 1 => [("AND", .and)]
  | 3 => [("=", .eq), ("==", .eq), ("<>", .notEq), ("!=", .notEq)]
  | 4 => [("<", .less), ("<=", .lessEq), (">", .greater), (">=", .greaterEq)]
  | 5 => [("+", .plus), ("-", .minus)]
  | 6 => [("*", .times), ("/", .divide), ("%", .modulo)]
  | 7 => [("||", .concat)]
  | _ => []

def operatorAt (level : Nat) : Rule Operator := do
  let t ← next
  match (operatorsAt level).find? fun (s, _) => t.isSymbol s || t.isKeyword s with
  | some (_, op) => return op
  | none => failure

/-- The type of a cast or a column: words, and numbers in parentheses. -/
def typeName : Rule String := do
  let before := (← get).tokens
  let words := (before.takeWhile fun t => isBareName t || t.kind = .quoted true ||
    t.kind = .quoted false || t.kind = .string).length
  guard (words ≠ 0)
  modify fun s => { s with tokens := s.tokens.drop words }
  let signed : Rule Unit := do
    let _ ← optional (token fun t => t.isSymbol "+" || t.isSymbol "-")
    let _ ← token (·.kind = .number)
  let _ ← optional (do
    symbol "("
    signed
    let _ ← optional (do symbol ","; signed)
    symbol ")")
  let taken := before.take (before.length - (← get).tokens.length)
  return Token.source taken

mutual

/-- A term whose outermost operator binds at least as tightly as a level. -/
def termAt : (fuel level : Nat) → Rule Term
  | 0, _ => failure
  | fuel + 1, level => do
    if level = 2 then
      if ← tried (keyword "NOT") then return .not (← termAt fuel 2) else termAt fuel 3
    else if level < 8 then
      let a ← termAt fuel (level + 1)
      chain fuel level a
    else primary fuel

/-- Further operators of a level after a term, from left to right. -/
def chain : (fuel level : Nat) → Term → Rule Term
  | 0, _, _ => failure
  | fuel + 1, level, a => do
    let nullTest : Rule Term := do
      guard (level = 3)
      let t ← next
      if t.isKeyword "ISNULL" then tighten fuel (.binary .is a (.literal .null))
      else if t.isKeyword "NOTNULL" then tighten fuel (.binary .isNot a (.literal .null))
      else
        guard (t.isKeyword "IS")
        let op := if ← tried (keyword "NOT") then Operator.isNot else .is
        return .binary op a (← termAt fuel 4)
    let step : Rule Term := do
      let op ← operatorAt level
      return .binary op a (← termAt fuel (level + 1))
    match ← optional (nullTest <|> step) with
    | some b => chain fuel level b
    | none => return a

/-- Operators after a test that stands behind its term: even tighter ones apply to the test. -/
def tighten : (fuel : Nat) → Term → Rule Term
  | 0, _ => failure
  | fuel + 1, a => do chain fuel 4 (← chain fuel 5 (← chain fuel 6 (← chain fuel 7 a)))

/-- A constant, a parameter, a column, a call, or a term in parentheses. -/
def primary : (fuel : Nat) → Rule Term
  | 0 => failure
  | fuel + 1 => do
    let t ← next
    match t.kind with
    | .number => return .literal (numberCell t.content false)
    | .string => return .literal (.text t.content)
    | .blob => return .literal (.blob ((hexBytes? t.content.toList).getD []))
    | .parameter => return .parameter (← parameterIndex t.content)
    | .quoted double =>
      if ← tried (symbol ".") then return .column (some t.content) (← name) false
      else return .column none t.content double
    | .symbol =>
      if t.content = "(" then
        let inner ← termAt fuel 0
        symbol ")"
        return inner
      else if t.content = "-" then
        match ← optional (token (·.kind = .number)) with
        | some n => return .literal (numberCell n.content true)
        | none => return .negate (← primary fuel)
      else if t.content = "+" then primary fuel
      else failure
    | .word =>
      if t.isKeyword "NULL" then return .literal .null
      else if t.isKeyword "TRUE" then return .truth true
      else if t.isKeyword "FALSE" then return .truth false
      else if t.isKeyword "NOT" then return .not (← termAt fuel 3)
      else if t.isKeyword "CAST" then
        symbol "("
        let inner ← termAt fuel 0
        keyword "AS"
        let declared ← typeName
        symbol ")"
        return .cast declared inner
      else
        guard (isBareName t)
        if ← tried (symbol ".") then return .column (some t.content) (← name) false
        else if ← tried (symbol "(") then
          let inner ← termAt fuel 0
          symbol ")"
          return .call t.content inner
        else return .column none t.content false

end

def term : Rule Term := do termAt (12 * (← remaining)) 0

/-! ## Commands -/

/-- A condition after `WHERE`. -/
def condition : Rule (Option Term) := optional (do keyword "WHERE"; term)

def output : Rule Output := do
  if ← tried (symbol "*") then return .all
  else
    let before := (← get).tokens
    let t ← term
    let source := Token.source (before.take (before.length - (← get).tokens.length))
    let label ← optional (do keyword "AS"; name)
    let label ← match label with
      | some l => pure (some l)
      | none => optional name
    return .item t label source

def select : Rule Command := do
  keyword "SELECT"
  let _ ← tried (keyword "ALL")
  let outputs ← commaList output (← remaining)
  let table ← optional (do keyword "FROM"; tableName)
  return .select outputs table (← condition)

/-- The names of types that are known in upper case only. -/
def standardTypes : List String := ["ANY", "BLOB", "INT", "INTEGER", "REAL", "TEXT"]

/-- The type of a column as it will be reported. -/
def reportedType (declared : String) : String :=
  (standardTypes.find? fun s => eqIgnoreCase s declared).getD declared

/-- A signed constant, for defaults. -/
def constant : Rule Cell := do
  let t ← term
  match t with
  | .literal c => return c
  | .truth b => return .ofTruth (some b)
  | .column none s _ => return .text s
  | _ => failure

def columnConstraints (position : Nat) :
    (fuel : Nat) → TableShape → Field → Rule (TableShape × Field)
  | 0, shape, f => return (shape, f)
  | fuel + 1, shape, f => do
    let again (shape : TableShape) (f : Field) := columnConstraints position fuel shape f
    if ← tried (do keyword "PRIMARY"; keyword "KEY") then
      let _ ← tried (keyword "ASC")
      let _ ← tried (keyword "AUTOINCREMENT")
      guard shape.primary.isEmpty
      again { shape with primary := [position] } f
    else if ← tried (do keyword "NOT"; keyword "NULL") then again shape { f with notNull := true }
    else if ← tried (keyword "NULL") then again shape f
    else if ← tried (keyword "UNIQUE") then
      again { shape with uniques := shape.uniques ++ [[position]] } f
    else if ← tried (keyword "DEFAULT") then again shape { f with default := ← constant }
    else if ← tried (keyword "REFERENCES") then
      let table ← tableName
      let column ← optional (do symbol "("; let c ← name; symbol ")"; return c)
      again { shape with references := shape.references ++ [⟨position, table, column⟩] } f
    else return (shape, f)

def fieldIndex (fields : List Field) (name : String) : Rule Nat :=
  match fields.findIdx? fun f => eqIgnoreCase f.name name with
  | some i => return i
  | none => failure

/-- Add one column or one constraint of a table. -/
def tableItem (shape : TableShape) : Rule TableShape := do
  if ← tried (do keyword "PRIMARY"; keyword "KEY") then
    let columns ← parenthesized name
    guard shape.primary.isEmpty
    return { shape with primary := ← columns.mapM (fieldIndex shape.fields) }
  else if ← tried (keyword "UNIQUE") then
    let columns ← parenthesized name
    return { shape with uniques := shape.uniques ++ [← columns.mapM (fieldIndex shape.fields)] }
  else if ← tried (do keyword "FOREIGN"; keyword "KEY") then
    symbol "("
    let field ← fieldIndex shape.fields (← name)
    symbol ")"
    keyword "REFERENCES"
    let table ← tableName
    let column ← optional (do symbol "("; let c ← name; symbol ")"; return c)
    return { shape with references := shape.references ++ [⟨field, table, column⟩] }
  else
    let n ← name
    guard (!shape.fields.any fun f => eqIgnoreCase f.name n)
    let declared := ((← optional typeName).map reportedType).getD ""
    let position := shape.fields.length
    let (shape, f) ← columnConstraints position (← remaining) shape ⟨n, declared, false, .null⟩
    return { shape with fields := shape.fields ++ [f] }

def tableItems : (fuel : Nat) → TableShape → Rule TableShape
  | 0, _ => failure
  | fuel + 1, shape => do
    let shape ← tableItem shape
    if ← tried (symbol ",") then tableItems fuel shape else return shape

/-- `CREATE TABLE`. -/
def createTable : Rule Command := do
  keyword "CREATE"
  let _ ← tried (keyword "TEMP" <|> keyword "TEMPORARY")
  keyword "TABLE"
  let ifMissing ← tried (do keyword "IF"; keyword "NOT"; keyword "EXISTS")
  let n ← tableName
  symbol "("
  let shape ← tableItems (← remaining) ⟨n, [], [], [], []⟩
  symbol ")"
  guard (!shape.fields.isEmpty)
  return .createTable shape ifMissing

/-- `DROP TABLE`. -/
def dropTable : Rule Command := do
  keyword "DROP"
  keyword "TABLE"
  let ifPresent ← tried (do keyword "IF"; keyword "EXISTS")
  return .dropTable (← tableName) ifPresent

/-- `INSERT INTO`. -/
def insert : Rule Command := do
  keyword "INSERT"
  keyword "INTO"
  let table ← tableName
  let columns ← optional (parenthesized name)
  if ← tried (do keyword "DEFAULT"; keyword "VALUES") then return .insert table (some []) [[]]
  else
    keyword "VALUES"
    return .insert table columns (← commaList (parenthesized term) (← remaining))

/-- `UPDATE`. -/
def update : Rule Command := do
  keyword "UPDATE"
  let table ← tableName
  keyword "SET"
  let change : Rule (String × Term) := do
    let n ← name
    symbol "="
    return (n, ← term)
  let changes ← commaList change (← remaining)
  return .update table changes (← condition)

/-- `DELETE FROM`. -/
def delete : Rule Command := do
  keyword "DELETE"
  keyword "FROM"
  let table ← tableName
  return .delete table (← condition)

/-- The value of a setting: one word, text or number. -/
def settingValue : Rule String := do
  let sign ← optional (token fun t => t.isSymbol "-" || t.isSymbol "+")
  let t ← token fun t => t.kind ≠ .symbol && t.kind ≠ .parameter
  return (if sign.any (Token.isSymbol "-") then "-" else "") ++ t.content

/-- `PRAGMA`. -/
def pragma : Rule Command := do
  keyword "PRAGMA"
  let n ← tableName
  if ← tried (symbol "=") then return .pragma n (some (← settingValue))
  else if ← tried (symbol "(") then
    let v ← settingValue
    symbol ")"
    return .pragma n (some v)
  else return .pragma n none

def command : Rule Command :=
  select <|> createTable <|> dropTable <|> insert <|> update <|> delete <|> pragma

end Reader

/-- A command and its number of parameters. -/
structure Parsed where
  command : Command
  parameters : Nat

/-- Read the first statement of a text. The outer none is a fault; the inner one says that there is
no statement at all. -/
def parse? (sql : String) : Option (Option Parsed) := do
  let tokens ← Token.ofText? sql
  if tokens.isEmpty then return none
  else
    let (command, rest) ← Reader.command.run { tokens }
    if rest.tokens.isEmpty then return some ⟨command, rest.parameters⟩ else none

end Sluice.Sqlite
