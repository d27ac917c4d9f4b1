import Sluice.Sql.Statement

/-!
# Recognising statements

The grammar with nesting up to a fixed depth, and the class of a text that consists of statements
only.
-/

namespace Sluice.Sql

open Rule

/-- How deeply statements, queries and expressions may nest. -/
def maxDepth : Nat := 50

def Grammar.ofDepth (flavor : Flavor) : Nat → Grammar
  | 0 => .empty flavor
  | depth + 1 =>
    let inner := ofDepth flavor depth
    { flavor
      operand := inner.operandAbove
      query := inner.wholeQuery
      statement := inner.wholeStatement }

/-- The remaining statements of a text. One that follows another must be set off by a semicolon,
or else the word `END` must stand there, after which nothing is read. -/
def laterStatements (g : Grammar) : (fuel : Nat) → Rule Unit
  | 0 => return ()
  | fuel + 1 => do
    let separated ← acceptsSymbol ";"
    repeated (acceptsSymbol ";")
    if (← peek).isNone then return ()
    if separated then
      let _ ← g.statement
      laterStatements g fuel
    else guard ((← peekWord) = "END")

/-- The class of the first of a text's statements. -/
def statements (g : Grammar) : Rule String := do
  repeated (acceptsSymbol ";")
  let className ← g.statement
  laterStatements g (← get).length
  return className

/-- The class of a statement; none when the text is not recognised as a whole. -/
def recognize (flavor : Flavor) (text : List Char) : Option String := do
  let tokens ← Token.ofText flavor text
  let (className, _) ← (statements (.ofDepth flavor maxDepth)).run tokens
  return className

end Sluice.Sql
