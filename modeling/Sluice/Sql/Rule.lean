import Sluice.Sql.Token

/-!
# Rules of a grammar

A rule takes tokens from the front of a statement or refuses. It builds nothing: only what was
recognised matters, not its tree. Rules that may start over elsewhere are tried in order.

Rules that refer to one another are collected in a `Grammar`. Every level of nesting uses the
grammar one level deeper, and at the deepest level nothing is recognised.
-/

namespace Sluice.Sql

abbrev Rule (α : Type) := StateT (List Token) Option α

namespace Rule

/-- The next token, left where it is. -/
def peek : Rule (Option Token) := return (← get).head?

/-- The upper-case text of the word at the front. -/
def peekWord : Rule String := do
  match (← get).head? with
  | some (.word _ upper) => return upper
  | _ => return ""

def next : Rule Token := do
  match ← get with
  | [] => failure
  | t :: rest => do
    set rest
    return t

/-- Take the next token if it satisfies a condition. -/
def token (p : Token → Bool) : Rule Unit := do
  guard (p (← next))

/-- Whether a rule applies; the tokens stay when it does not. -/
def tried (r : Rule Unit) : Rule Bool := (do r; return true) <|> return false

def optional (r : Rule Unit) : Rule Unit := do
  let _ ← tried r

def keyword (k : String) : Rule Unit := token fun
  | .word _ upper => upper = k
  | _ => false

def keywords : List String → Rule Unit
  | [] => return ()
  | k :: rest => do
    keyword k
    keywords rest

def symbol (s : String) : Rule Unit := token (· = .symbol s)

/-- Take a keyword if it comes next. -/
def accepts (k : String) : Rule Bool := tried (keyword k)

/-- Take keywords if they come next. -/
def acceptsAll (ks : List String) : Rule Bool := tried (keywords ks)

/-- Take one of several keywords if it comes next. -/
def acceptsAny (ks : List String) : Rule Bool := do
  if ks.contains (← peekWord) then
    let _ ← next
    return true
  return false

/-- Take a symbol if it comes next. -/
def acceptsSymbol (s : String) : Rule Bool := tried (symbol s)

def parenthesized (r : Rule Unit) : Rule Unit := do
  symbol "("
  r
  symbol ")"

/-- Items separated by commas, at most `fuel` commas. -/
def separated (item : Rule Unit) : (fuel : Nat) → Rule Unit
  | 0 => item
  | fuel + 1 => do
    item
    if ← acceptsSymbol "," then separated item fuel

def commaList (item : Rule Unit) : Rule Unit := do
  separated item (← get).length

/-- Repeat a step until it has nothing to do, at most `fuel` times. -/
def stepwise (step : Rule Bool) : (fuel : Nat) → Rule Unit
  | 0 => return ()
  | fuel + 1 => do
    if ← step then stepwise step fuel

def repeated (step : Rule Bool) : Rule Unit := do
  stepwise step (← get).length

/-! ## Names -/

/-- A name: any word, a quoted name, or a string. -/
def name : Rule Unit := token fun
  | .word _ _ | .quotedName | .string => true
  | _ => false

/-- Names joined by points, at most `fuel` points. -/
def pointed : (fuel : Nat) → Rule Unit
  | 0 => name
  | fuel + 1 => do
    name
    if ← acceptsSymbol "." then pointed fuel

def objectName : Rule Unit := do
  pointed (← get).length

/-- Column names in parentheses, or nothing. -/
def optionalColumns : Rule Unit := do
  if (← peek) = some (.symbol "(") then parenthesized (commaList name)

def text : Rule Unit := token fun
  | .string | .escapedString => true
  | _ => false

/-- Words that do not name a column of a result unless `AS` stands before them. -/
def columnStops : List String :=
  ["WITH", "EXPLAIN", "ANALYZE", "SELECT", "WHERE", "GROUP", "SORT", "HAVING", "ORDER", "TOP",
    "LATERAL", "VIEW", "LIMIT", "OFFSET", "FETCH", "UNION", "EXCEPT", "INTERSECT", "CLUSTER",
    "DISTRIBUTE", "RETURNING", "FROM", "INTO", "END"]

/-- Words that do not name a table unless `AS` stands before them. -/
def tableStops : List String :=
  ["WITH", "EXPLAIN", "ANALYZE", "SELECT", "WHERE", "GROUP", "SORT", "HAVING", "ORDER", "PIVOT",
    "UNPIVOT", "TOP", "LATERAL", "VIEW", "LIMIT", "OFFSET", "FETCH", "UNION", "EXCEPT",
    "INTERSECT", "ON", "JOIN", "INNER", "CROSS", "FULL", "LEFT", "RIGHT", "NATURAL", "USING",
    "CLUSTER", "DISTRIBUTE", "GLOBAL", "ANTI", "SEMI", "RETURNING", "ASOF", "MATCH_CONDITION",
    "OUTER", "SET", "QUALIFY", "WINDOW", "END", "FOR", "PARTITION", "PREWHERE", "SETTINGS",
    "FORMAT", "START", "CONNECT", "MATCH_RECOGNIZE"]

/-- A new name, if there is one; tells whether there was. -/
def newName (stops : List String) : Rule Bool := do
  if ← accepts "AS" then
    name
    return true
  match ← peek with
  | some (.word _ upper) => if stops.contains upper then return false else tried name
  | some .quotedName | some .string => tried name
  | _ => return false

end Rule

/-- The rules that refer to one another. -/
structure Grammar where
  flavor : Flavor
  /-- An expression whose operators bind tighter than a precedence. -/
  operand : (precedence : Nat) → Rule Unit
  query : Rule Unit
  /-- A statement and its class. -/
  statement : Rule String

namespace Grammar

def expression (g : Grammar) : Rule Unit := g.operand 0

def empty (flavor : Flavor) : Grammar where
  flavor
  operand _ := failure
  query := failure
  statement := failure

end Grammar

end Sluice.Sql
