import Sluice.Binary64.Shortest
import Sluice.Text.Ascii

/-!
# Documents

The tree of a JSON document. Object fields keep their order, and a repeated key is kept too:
whether that is an error is for the consumer to say. Integers that fit 64 bits stay exact; all
other numbers are floats.
-/

namespace Sluice

inductive Json where
  | null
  | bool (b : Bool)
  | int (n : Int)
  | float (x : Binary64)
  | str (s : String)
  | arr (items : List Json)
  | obj (fields : List (String × Json))
deriving Inhabited

namespace Json

/-! ## Access -/

def field? (name : String) : Json → Option Json
  | obj fields => (fields.reverse.find? (·.1 == name)).map (·.2)
  | _ => none

def toText? : Json → Option String
  | str s => some s
  | _ => none

def toBool? : Json → Option Bool
  | bool b => some b
  | _ => none

/-- An integer within the given bounds. -/
def toIntWithin? (least greatest : Int) : Json → Option Int
  | int n => if least ≤ n && n ≤ greatest then some n else none
  | _ => none

/-- A signed 64-bit integer. -/
def toInt64? (j : Json) : Option Int64 :=
  (j.toIntWithin? Int64.minValue.toInt Int64.maxValue.toInt).map Int64.ofInt

/-- An unsigned 64-bit integer. -/
def toUInt64? (j : Json) : Option UInt64 :=
  (j.toIntWithin? 0 (UInt64.size - 1 : Nat)).map fun n => UInt64.ofNat n.toNat

def toByte? (j : Json) : Option UInt8 :=
  (j.toIntWithin? 0 255).map fun n => UInt8.ofNat n.toNat

def toFloat? : Json → Option Binary64
  | int n => some (.ofInt n)
  | float x => some x
  | _ => none

def toList? : Json → Option (List Json)
  | arr items => some items
  | _ => none

def toFields? : Json → Option (List (String × Json))
  | obj fields => some fields
  | _ => none

/-- An optional value: null is none. -/
def toOption? (read : Json → Option α) : Json → Option (Option α)
  | null => some none
  | j => (read j).map some

def toListOf? (read : Json → Option α) : Json → Option (List α)
  | arr items => items.mapM read
  | _ => none

/-! ## Writing -/

def escapeChar (c : Char) : List Char :=
  if c = '"' then ['\\', '"']
  else if c = '\\' then ['\\', '\\']
  else if c = '\n' then ['\\', 'n']
  else if c = '\r' then ['\\', 'r']
  else if c = '\t' then ['\\', 't']
  else if c = '\x08' then ['\\', 'b']
  else if c = '\x0c' then ['\\', 'f']
  else if c.toNat < 0x20 then
    ['\\', 'u', '0', '0', Nat.digitChar (c.toNat / 16), Nat.digitChar (c.toNat % 16)]
  else [c]

def quote (s : String) : String :=
  "\"" ++ String.ofList (s.toList.flatMap escapeChar) ++ "\""

/-- A number; a float that is not finite has no number and becomes null. -/
def renderFloat (x : Binary64) : String :=
  if x.isFinite then x.render .interchange else "null"

mutual

def compress : Json → String
  | null => "null"
  | bool b => if b then "true" else "false"
  | int n => toString n
  | float x => renderFloat x
  | str s => quote s
  | arr items => "[" ++ compressItems items ++ "]"
  | obj fields => "\x7b" ++ compressFields fields ++ "\x7d"

def compressItems : List Json → String
  | [] => ""
  | [j] => compress j
  | j :: rest => compress j ++ "," ++ compressItems rest

def compressFields : List (String × Json) → String
  | [] => ""
  | [(k, j)] => quote k ++ ":" ++ compress j
  | (k, j) :: rest => quote k ++ ":" ++ compress j ++ "," ++ compressFields rest

end

/-- A new line followed by two blanks for each level. -/
def newline (level : Nat) : String := "\n" ++ String.ofList (List.replicate (2 * level) ' ')

mutual

/-- The document with one element or field a line. -/
def pretty (level : Nat) : Json → String
  | null => "null"
  | bool b => if b then "true" else "false"
  | int n => toString n
  | float x => renderFloat x
  | str s => quote s
  | arr [] => "[]"
  | arr (j :: rest) =>
    "[" ++ newline (level + 1) ++ pretty (level + 1) j ++ prettyItems (level + 1) rest ++
      newline level ++ "]"
  | obj [] => "\x7b\x7d"
  | obj ((k, j) :: rest) =>
    "\x7b" ++ newline (level + 1) ++ quote k ++ ": " ++ pretty (level + 1) j ++
      prettyFields (level + 1) rest ++ newline level ++ "\x7d"

/-- Further elements, each after a comma. -/
def prettyItems (level : Nat) : List Json → String
  | [] => ""
  | j :: rest => "," ++ newline level ++ pretty level j ++ prettyItems level rest

/-- Further fields, each after a comma. -/
def prettyFields (level : Nat) : List (String × Json) → String
  | [] => ""
  | (k, j) :: rest =>
    "," ++ newline level ++ quote k ++ ": " ++ pretty level j ++ prettyFields level rest

end

end Json

end Sluice
