import Sluice.Sql.Flavor
import Sluice.Text.Ascii
import Sluice.Text.Blank
import Sluice.Text.Upper

/-!
# Tokens of SQL

A statement is cut into words, literals, placeholders and symbols. Blanks and comments separate
tokens and are dropped. A literal, quoted name or comment that is not closed has no tokens.
-/

namespace Sluice.Sql

open Text

inductive Token where
  /-- A bare word as written, and in upper case. -/
  | word (text upper : String)
  /-- A quoted name. -/
  | quotedName
  | number
  /-- A string in single quotes. -/
  | string
  /-- A string in single quotes with backslash escapes. -/
  | escapedString
  /-- A literal of another kind. -/
  | literal
  | placeholder
  | symbol (s : String)
  /-- An operator that only its backend knows. -/
  | customOperator
deriving DecidableEq, Inhabited

namespace Token

def ofWord (cs : List Char) : Token := word (String.ofList cs) (String.ofList (Text.upper cs))

/-- What follows a string closed by `close`, where a doubled mark stands for itself. -/
def skipString (close : Char) : List Char → Option (List Char)
  | [] => none
  | c :: rest =>
    if c = close then
      match rest with
      | d :: after => if d = close then skipString close after else some rest
      | [] => some []
    else skipString close rest

/-- What follows a string in which a backslash escapes the next character. -/
def skipEscaped : List Char → Option (List Char)
  | [] => none
  | '\\' :: _ :: rest => skipEscaped rest
  | '\'' :: '\'' :: rest => skipEscaped rest
  | '\'' :: rest => some rest
  | _ :: rest => skipEscaped rest

/-- What follows a block comment; comments nest. -/
def skipComment (depth : Nat) (last : Char) : List Char → Option (List Char)
  | [] => none
  | c :: rest =>
    if last = '/' && c = '*' then skipComment (depth + 1) c rest
    else if last = '*' && c = '/' then
      if depth ≤ 1 then some rest else skipComment (depth - 1) c rest
    else skipComment depth c rest

/-- What follows a body closed by the next `$$`. -/
def skipBareDollars : List Char → Option (List Char)
  | [] => none
  | '$' :: '$' :: rest => some rest
  | _ :: rest => skipBareDollars rest

/-- What follows a body closed by `mark`; where a candidate fails, its characters are passed
over. -/
def skipTagged (mark : List Char) : (fuel : Nat) → List Char → Option (List Char)
  | 0, _ => none
  | fuel + 1, cs =>
    match cs.dropWhile (· ≠ '$') with
    | [] => none
    | _ :: rest =>
      let same := (rest.zip mark).takeWhile fun (c, m) => c = m
      if same.length = mark.length then
        match rest.drop mark.length with
        | '$' :: after => some after
        | after => skipTagged mark fuel after
      else skipTagged mark fuel (rest.drop (same.length + 1))

/-- A placeholder or a dollar-quoted body, after its first dollar sign. -/
def dollar (cs : List Char) : Option (Token × List Char) :=
  match cs with
  | '$' :: rest => (skipBareDollars rest).map fun after => (literal, after)
  | _ =>
    let isTagChar c := isAlphabetic c || c.isDigit || c = '_'
    let tag := cs.takeWhile isTagChar
    match cs.drop tag.length with
    | '$' :: body => (skipTagged tag (body.length + 1) body).map fun after => (literal, after)
    | after => some (placeholder, after)

/-- The exponent of a number: digits after a mark and perhaps a sign. -/
def skipExponent (cs : List Char) : List Char :=
  match cs with
  | e :: rest =>
    if e = 'e' || e = 'E' then
      let digits := match rest with
        | '+' :: r | '-' :: r => r
        | r => r
      if (digits.headD ' ').isDigit then digits.dropWhile Char.isDigit else cs
    else cs
  | [] => []

/-- A number, or the point alone. -/
def numberOrPoint (cs : List Char) : Token × List Char :=
  match cs with
  | '0' :: 'x' :: rest =>
    (literal, rest.dropWhile fun c => c.isDigit || 'a' ≤ c.toLower && c.toLower ≤ 'f')
  | _ =>
    let afterWhole := cs.dropWhile Char.isDigit
    let afterFraction := match afterWhole with
      | '.' :: rest => rest.dropWhile Char.isDigit
      | rest => rest
    if cs.length = afterFraction.length + 1 && cs.head? = some '.' then
      (symbol ".", afterFraction)
    else
      match skipExponent afterFraction with
      | 'L' :: rest => (number, rest)
      | rest => (number, rest)

/-- Symbols, longer ones before those that start them. -/
def symbols : List String :=
  ["!~~*", "!~~", "!~*", "<=>", "->>", "#>>", "~~*", "||/", "->", "|/", "||", "=>", "==", "!=",
    "!!", "!~", "<=", "<>", "<<", "<@", ">=", ">>", "::", ":=", "&&", "^@", "~*", "~~", "#-", "#>",
    "@>", "@?", "@@", "(", ")", ",", "+", "-", "*", "/", "%", "|", "=", "!", "<", ">", ":", ";",
    "\\", "[", "]", "&", "^", "\x7b", "\x7d", "#", "~", "@"]

/-- Symbols that further operator characters do not extend. -/
def closedSymbols : List String :=
  ["(", ")", ",", "+", "*", "/", "=", "==", "=>", "!=", ":", "::", ":=", ";", "\\", "[", "]",
    "\x7b", "\x7d"]

def isOperatorChar (c : Char) : Bool := "+-*/<>=~!@#%^&|\x60?".toList.contains c

/-- A symbol, or an operator of one's own where the flavor has them. -/
def symbolAt (flavor : Flavor) (cs : List Char) : Option (Token × List Char) :=
  symbols.findSome? fun s => (dropPrefix? s.toList cs).map fun rest =>
    if flavor = .postgres && !closedSymbols.contains s && isOperatorChar (rest.headD ' ') then
      (customOperator, rest.dropWhile isOperatorChar)
    else (symbol s, rest)

def name (flavor : Flavor) (start rest : List Char) : Token × List Char :=
  (ofWord (start ++ rest.takeWhile flavor.isNamePart), rest.dropWhile flavor.isNamePart)

/-- Literals marked by a letter before the quote. -/
def marked? (flavor : Flavor) (cs : List Char) : Option (Option (Token × List Char)) :=
  match cs with
  | c :: '\'' :: rest =>
    match c.toLower with
    | 'n' | 'x' => some ((skipString '\'' rest).map fun after => (literal, after))
    | 'b' | 'r' =>
      if flavor = .generic then some ((skipString '\'' rest).map fun after => (literal, after))
      else none
    | 'e' => some ((skipEscaped rest).map fun after => (escapedString, after))
    | _ => none
  | c :: '"' :: rest =>
    if flavor = .generic && (c.toLower = 'b' || c.toLower = 'r') then
      some ((skipString '"' rest).map fun after => (literal, after))
    else none
  | c :: '&' :: '\'' :: rest =>
    if c.toLower = 'u' && flavor ≠ .sqlite then
      some ((skipString '\'' rest).map fun after => (literal, after))
    else none
  | _ => none

/-- Names that start with a sign; the sign alone is a symbol. -/
def signed (flavor : Flavor) (c : Char) (rest : List Char) : Option (Token × List Char) :=
  let isName := flavor.isNameStart c && match c, rest with
    | '#', d :: _ => d ≠ '-' && d ≠ '>' && d ≠ ' '
    | '@', d :: _ => d ≠ '>' && d ≠ '?' && d ≠ ' '
    | _, _ => false
  if isName then some (name flavor (c :: rest.take 1) (rest.drop 1))
  else symbolAt flavor (c :: rest)

/-- The token at the start of a text; none for a blank or comment. -/
def at? (flavor : Flavor) (c : Char) (rest : List Char) : Option (Option Token × List Char) :=
  let keep (r : Option (Token × List Char)) := r.map fun (t, after) => (some t, after)
  match marked? flavor (c :: rest) with
  | some r => keep r
  | none =>
    match c, rest with
    | '-', '-' :: after => some (none, after.dropWhile (· ≠ '\n'))
    | '/', '*' :: after => (skipComment 1 ' ' after).map fun after => (none, after)
    | '/', '/' :: after =>
      if flavor = .generic then some (some (symbol "//"), after) else some (some (symbol "/"), rest)
    | '\'', _ => keep ((skipString '\'' rest).map fun after => (string, after))
    | _, _ =>
      match flavor.closingQuote? c with
      | some close => keep ((skipString close rest).map fun after => (quotedName, after))
      | none =>
        if c.isDigit || c = '.' then keep (some (numberOrPoint (c :: rest)))
        else if c = '#' || c = '@' then keep (signed flavor c rest)
        else if c = '?' then
          if flavor = .postgres then
            match rest with
            | '|' :: after => some (some (symbol "?|"), after)
            | '&' :: after => some (some (symbol "?&"), after)
            | _ => some (some (symbol "?"), rest)
          else some (some placeholder, rest.dropWhile Char.isDigit)
        else if flavor.isNameStart c then keep (some (name flavor [c] rest))
        else if c = '$' then keep (dollar rest)
        else if isBlank c then some (none, rest)
        else
          match symbolAt flavor (c :: rest) with
          | some (t, after) => some (some t, after)
          | none => some (some (symbol (String.singleton c)), rest)

/-- All tokens; every step takes at least one character. -/
def readAll (flavor : Flavor) : (fuel : Nat) → List Char → Option (List Token)
  | _, [] => some []
  | 0, _ :: _ => none
  | fuel + 1, c :: rest => do
    let (token, after) ← at? flavor c rest
    let later ← readAll flavor fuel after
    return match token with
      | some t => t :: later
      | none => later

def ofText (flavor : Flavor) (s : List Char) : Option (List Token) := readAll flavor s.length s

end Token

end Sluice.Sql
