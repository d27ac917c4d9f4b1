import Sluice.Text.Alphabetic

/-!
# Flavors of SQL

Recognising a statement depends on the backend in a few places: which characters make up a name,
which marks quote one, and which clauses exist.
-/

namespace Sluice.Sql

open Text

inductive Flavor where
  /-- The common ground of most backends, and generous. -/
  | generic
  | postgres
  | sqlite
deriving DecidableEq, Inhabited

namespace Flavor

def isNameStart : Flavor → Char → Bool
  | generic, c => isAlphabetic c || c = '_' || c = '#' || c = '@'
  | postgres, c => isAlphabetic c || c = '_'
  | sqlite, c => c.isAlpha || c = '_' || c = '$' || (0x7F ≤ c.toNat && c.toNat ≤ 0xFFFF)

def isNamePart : Flavor → Char → Bool
  | generic, c => isAlphabetic c || c.isDigit || c = '_' || c = '#' || c = '@' || c = '$'
  | postgres, c => isAlphabetic c || c.isDigit || c = '_' || c = '$'
  | sqlite, c => sqlite.isNameStart c || c.isDigit

/-- The mark that closes a name quoted by a given mark. -/
def closingQuote? : Flavor → Char → Option Char
  | _, '"' => some '"'
  | generic, '\x60' | sqlite, '\x60' => some '\x60'
  | sqlite, '[' => some ']'
  | _, _ => none

end Flavor

end Sluice.Sql
