import Sluice.Sqlite.Cell
import Sluice.Uuid

/-!
# Tokens of the embedded database

Each token keeps its own spelling and what stood before it, because a computed column is named
after the text of its expression.
-/

namespace Sluice.Sqlite

open Text

inductive TokenKind where
  /-- A keyword or bare name. -/
  | word
  /-- A quoted name; in double quotes it may turn out to be a text. -/
  | quoted (double : Bool)
  | string
  | number
  | blob
  | parameter
  | symbol
deriving DecidableEq, Inhabited

structure Token where
  kind : TokenKind
  /-- Blanks and comments before the token. -/
  gap : List Char
  /-- The token as it was written. -/
  raw : List Char
  /-- What it stands for, without quotes. -/
  content : String
deriving DecidableEq, Inhabited

namespace Token

def isNameStart (c : Char) : Bool := c.isAlpha || c = '_' || 0x80 ≤ c.toNat

def isNamePart (c : Char) : Bool := isNameStart c || c.isDigit || c = '$'

/-- Text up to a closing quote, which is doubled to stand for itself; with the rest. -/
def untilQuote (quote : Char) : List Char → Option (List Char × List Char)
  | [] => none
  | [c] => if c = quote then some ([], []) else none
  | c :: d :: rest =>
    if c ≠ quote then (untilQuote quote (d :: rest)).map fun (s, r) => (c :: s, r)
    else if d = quote then (untilQuote quote rest).map fun (s, r) => (quote :: s, r)
    else some ([], d :: rest)

/-- Text up to a closing bracket, with the rest. -/
def untilBracket : List Char → Option (List Char × List Char)
  | [] => none
  | c :: rest =>
    if c = ']' then some ([], rest) else (untilBracket rest).map fun (s, r) => (c :: s, r)

/-- How many digits stand at the front, separators between them included. -/
def digitCount (isDigit : Char → Bool) (cs : List Char) : Nat :=
  (cs.takeWhile fun c => isDigit c || c = '_').length

def isSeparated (isDigit : Char → Bool) : List Char → Bool
  | c :: '_' :: d :: rest => isDigit c && isDigit d && isSeparated isDigit (d :: rest)
  | [_, '_'] => false
  | '_' :: _ => false
  | _ :: rest => isSeparated isDigit rest
  | [] => true

/-- The length of a hexadecimal number, zero if none stands at the front. -/
def hexLength : List Char → Nat
  | '0' :: x :: d :: rest =>
    if (x = 'x' || x = 'X') && (hexDigit? d).isSome then
      3 + digitCount (fun c => (hexDigit? c).isSome) rest
    else 0
  | _ => 0

def decimalLength (cs : List Char) : Nat :=
  let whole := digitCount Char.isDigit cs
  let n := match cs.drop whole with
    | '.' :: rest => whole + 1 + digitCount Char.isDigit rest
    | _ => whole
  match cs.drop n with
  | e :: s :: rest =>
    if e = 'e' || e = 'E' then
      if s.isDigit then n + 1 + digitCount Char.isDigit (s :: rest)
      else if (s = '+' || s = '-') && (rest.head?.map Char.isDigit) = some true then
        n + 2 + digitCount Char.isDigit rest
      else n
    else n
  | _ => n

/-- The length of a number, none if a name runs into it or a separator is out of place. -/
def numberLength? (cs : List Char) : Option Nat :=
  let isHex := hexLength cs ≠ 0
  let n := if isHex then hexLength cs else decimalLength cs
  let isDigit (c : Char) := if isHex then (hexDigit? c).isSome else c.isDigit
  let ends := match cs.drop n with
    | c :: _ => !isNamePart c
    | [] => true
  if ends && isSeparated isDigit (cs.take n) then some n else none

/-- Symbols of more than one character, the longer first. -/
def longSymbols : List String := ["->>", "||", "<<", ">>", "<=", ">=", "<>", "!=", "==", "->"]

/-- Blanks and comments at the front, and the rest. -/
def splitGap : (fuel : Nat) → List Char → List Char × List Char
  | 0, cs => ([], cs)
  | fuel + 1, cs =>
    let more (n : Nat) : List Char × List Char :=
      let (gap, rest) := splitGap fuel (cs.drop n)
      (cs.take n ++ gap, rest)
    match cs with
    | '-' :: '-' :: rest => more (2 + (rest.takeWhile (· ≠ '\n')).length)
    | '/' :: '*' :: rest =>
      let rec bodyLength : List Char → Nat
        | '*' :: '/' :: _ => 2
        | _ :: rest => bodyLength rest + 1
        | [] => 0
      more (2 + bodyLength rest)
    | c :: _ => if Cell.isSpace c then more 1 else ([], cs)
    | [] => ([], [])

/-- The token at the front, with the rest; none if nothing can start so. -/
def take? (gap cs : List Char) : Option (Token × List Char) :=
  let cut (kind : TokenKind) (n : Nat) (content : String) : Option (Token × List Char) :=
    some (⟨kind, gap, cs.take n, content⟩, cs.drop n)
  let plain (kind : TokenKind) (n : Nat) := cut kind n (String.ofList (cs.take n))
  let quoted (kind : TokenKind) (r : Option (List Char × List Char)) : Option (Token × List Char) :=
    r.bind fun (s, rest) => cut kind (cs.length - rest.length) (String.ofList s)
  match cs with
  | [] => none
  | '\'' :: rest => quoted .string (untilQuote '\'' rest)
  | '"' :: rest => quoted (.quoted true) (untilQuote '"' rest)
  | '\x60' :: rest => quoted (.quoted false) (untilQuote '\x60' rest)
  | '[' :: rest => quoted (.quoted false) (untilBracket rest)
  | '?' :: rest => plain .parameter (1 + (rest.takeWhile Char.isDigit).length)
  | c :: rest =>
    if (c = 'x' || c = 'X') && rest.head? = some '\'' then
      match untilQuote '\'' (rest.drop 1) with
      | some (digits, after) =>
        if (hexBytes? digits).isSome then
          cut .blob (cs.length - after.length) (String.ofList digits)
        else none
      | none => none
    else if isNameStart c then plain .word (1 + (rest.takeWhile isNamePart).length)
    else if c.isDigit || (c = '.' && (rest.head?.map Char.isDigit) = some true) then
      (numberLength? cs).bind fun n =>
        cut .number n (String.ofList ((cs.take n).filter (· ≠ '_')))
    else if c = ':' || c = '@' || c = '$' then
      let n := (rest.takeWhile isNamePart).length
      if n = 0 then none else plain .parameter (n + 1)
    else
      match longSymbols.find? fun s => (dropPrefix? s.toList cs).isSome with
      | some s => plain .symbol s.length
      | none => if "()+-*/%=<>,.;&~|".toList.contains c then plain .symbol 1 else none

/-- The tokens of the first statement, without the semicolon that ends it. Semicolons before it are
skipped; what follows it is never read. -/
def scan : (fuel : Nat) → (started : Bool) → List Char → Option (List Token)
  | 0, _, _ => none
  | fuel + 1, started, cs =>
    let (gap, rest) := splitGap (cs.length + 1) cs
    if rest.isEmpty then some []
    else do
      let (t, rest) ← take? gap rest
      if t.kind = .symbol && t.content = ";" then
        if started then return [] else scan fuel false rest
      else return t :: (← scan fuel true rest)

/-- The tokens of the first statement of a text, which ends at a zero character. -/
def ofText? (s : String) : Option (List Token) :=
  let cs := s.toList.takeWhile (· ≠ '\x00')
  scan (cs.length + 1) false cs

/-- The text that tokens were read from, from the first to the last. -/
def source : List Token → String
  | [] => ""
  | t :: ts => String.ofList (t.raw ++ ts.flatMap fun u => u.gap ++ u.raw)

def isKeyword (k : String) (t : Token) : Bool := t.kind = .word && eqIgnoreCase t.content k

def isSymbol (s : String) (t : Token) : Bool := t.kind = .symbol && t.content = s

end Token

end Sluice.Sqlite
