import Sluice.Int64
import Sluice.Json

/-!
# Reading documents

The text is first cut into tokens, in one pass over its characters, and the tokens are then
folded into a tree with a stack of open arrays and objects. Containers may be nested 127 deep.

A number keeps the leading digits that fit an unsigned 64-bit significand. Further digits count
only for its magnitude, and the value is the significand, as a float, times or divided by the
nearest float to a power of ten: two or three roundings, so a long number may differ in its last
bit from the float nearest to its text.
-/

namespace Sluice.Json

/-! ## Numbers -/

/-- A significand below `2 ^ 64`, a power of ten, and whether a digit no longer fitted. -/
structure Significand where
  digits : Nat
  power : Int
  isFull : Bool

/-- Take a digit before the point: once one does not fit, all later ones only count. -/
def Significand.pushWhole (s : Significand) (d : Nat) : Significand :=
  if s.isFull || UInt64.size ≤ s.digits * 10 + d then
    { s with power := s.power + 1, isFull := true }
  else { s with digits := s.digits * 10 + d }

/-- Take a digit after the point: once one does not fit, all later ones are ignored. -/
def Significand.pushFraction (s : Significand) (d : Nat) : Significand :=
  if s.isFull || UInt64.size ≤ s.digits * 10 + d then { s with isFull := true }
  else { s with digits := s.digits * 10 + d, power := s.power - 1 }

def digitValue (c : Char) : Nat := c.toNat - '0'.toNat

/-- The float nearest to a power of ten. -/
def tenTo (n : Nat) : Binary64 := .ofRatio false (Nat.pow 10 n) 1

/-- Scale a significand by a power of ten; none when the result is out of range. -/
def scale (negative : Bool) (digits : Nat) (power : Int) : Option Binary64 :=
  let sign (x : Binary64) : Binary64 := if negative then x.neg else x
  let f := Binary64.ofRatio false digits 1
  let shrink (f : Binary64) (p : Nat) : Binary64 := f.divFinite (tenTo p)
  if 0 ≤ power then
    if 308 < power then (if digits = 0 then some (sign f) else none)
    else
      let x := f.mul (tenTo power.toNat)
      if x.isFinite then some (sign x) else none
  else if -308 ≤ power then some (sign (shrink f (-power).toNat))
  else if -616 ≤ power then some (sign (shrink (shrink f 308) (-power - 308).toNat))
  else if -924 ≤ power then some (sign (shrink (shrink (shrink f 308) 308) (-power - 616).toNat))
  else some (sign .zero)

/-- The value of a number: its sign, digits before and after the point, and its exponent. -/
def numberValue (negative : Bool) (whole : List Char) (fraction : Option (List Char))
    (exponent : Option (Bool × List Char)) : Option Json :=
  let s : Significand :=
    whole.foldl (fun (s : Significand) c => s.pushWhole (digitValue c)) ⟨0, 0, false⟩
  match fraction, exponent with
  | none, none =>
    if s.isFull then (scale negative s.digits s.power).map float
    else if !negative then some (int s.digits)
    else if s.digits = 0 || !fitsInt64 (-(s.digits : Int)) then (scale true s.digits 0).map float
    else some (int (-(s.digits : Int)))
  | fraction, exponent =>
    let s : Significand :=
      (fraction.getD []).foldl (fun (s : Significand) c => s.pushFraction (digitValue c))
        { s with isFull := false }
    match exponent with
    | none => (scale negative s.digits s.power).map float
    | some (down, digits) =>
      let e : Nat := digits.foldl (fun n c => n * 10 + digitValue c) 0
      if Int32.maxValue.toInt < e then
        if s.digits ≠ 0 && !down then none
        else some (float (if negative then Binary64.zero.neg else .zero))
      else (scale negative s.digits (if down then s.power - e else s.power + e)).map float

/-- Read a number that takes up all of `cs`. -/
def readNumber (cs : List Char) : Option Json := do
  let (negative, cs) := match cs with
    | '-' :: rest => (true, rest)
    | cs => (false, cs)
  let whole := cs.takeWhile Char.isDigit
  let cs := cs.drop whole.length
  if whole.isEmpty || (whole.head? = some '0' && whole.length ≠ 1) then failure
  let (fraction, cs) ← match cs with
    | '.' :: rest =>
      let digits := rest.takeWhile Char.isDigit
      if digits.isEmpty then none else some (some digits, rest.drop digits.length)
    | cs => some (none, cs)
  let exponent ← match cs with
    | [] => some none
    | e :: rest =>
      if e ≠ 'e' && e ≠ 'E' then none
      else
        let (down, rest) := match rest with
          | '-' :: rest => (true, rest)
          | '+' :: rest => (false, rest)
          | rest => (false, rest)
        if rest.isEmpty || !rest.all Char.isDigit then none else some (some (down, rest))
  numberValue negative whole fraction exponent

/-! ## Tokens -/

inductive Token where
  | openArray | closeArray | openObject | closeObject | comma | colon
  | leaf (j : Json)

/-- What the characters read so far belong to; texts are kept in reverse. -/
inductive Mode where
  | between
  | number (read : List Char)
  | word (read : List Char)
  | string (read : List Char)
  | escape (read : List Char)
  /-- Inside `\uXXXX`: the digits so far, and a leading surrogate waiting for its partner. -/
  | unicode (read : List Char) (lead : Option Nat) (count value : Nat)
  /-- After a leading surrogate: the backslash and the `u` of its partner are still to come. -/
  | partner (read : List Char) (lead : Nat) (slash : Bool)

def hexValue? (c : Char) : Option Nat :=
  if c.isDigit then some (c.toNat - 48)
  else if 'a' ≤ c && c ≤ 'f' then some (c.toNat - 87)
  else if 'A' ≤ c && c ≤ 'F' then some (c.toNat - 55)
  else none

/-- The character that a backslash and a letter stand for. -/
def escaped? : Char → Option Char
  | '"' => some '"' | '\\' => some '\\' | '/' => some '/' | 'b' => some '\x08'
  | 'f' => some '\x0c' | 'n' => some '\n' | 'r' => some '\r' | 't' => some '\t'
  | _ => none

def wordToken (read : List Char) : Option Token :=
  match String.ofList read.reverse with
  | "null" => some (.leaf .null)
  | "true" => some (.leaf (.bool true))
  | "false" => some (.leaf (.bool false))
  | _ => none

/-- A character between tokens: the token it is, if any, and the mode it starts. -/
def start (c : Char) : Option (List Token × Mode) :=
  match c with
  | ' ' | '\n' | '\t' | '\r' => some ([], .between)
  | '[' => some ([.openArray], .between)
  | ']' => some ([.closeArray], .between)
  | '\x7b' => some ([.openObject], .between)
  | '\x7d' => some ([.closeObject], .between)
  | ',' => some ([.comma], .between)
  | ':' => some ([.colon], .between)
  | '"' => some ([], .string [])
  | c =>
    if c.isDigit || c = '-' then some ([], .number [c])
    else if c.isLower then some ([], .word [c])
    else none

def isNumberChar (c : Char) : Bool :=
  c.isDigit || c = '.' || c = 'e' || c = 'E' || c = '+' || c = '-'

/-- One character in a mode: the tokens it completes and the next mode. -/
def step (mode : Mode) (c : Char) : Option (List Token × Mode) :=
  match mode with
  | .between => start c
  | .number read =>
    if isNumberChar c then some ([], .number (c :: read))
    else do
      let j ← readNumber read.reverse
      let (tokens, mode) ← start c
      return (.leaf j :: tokens, mode)
  | .word read =>
    if c.isLower then some ([], .word (c :: read))
    else do
      let token ← wordToken read
      let (tokens, mode) ← start c
      return (token :: tokens, mode)
  | .string read =>
    if c = '"' then some ([.leaf (.str (String.ofList read.reverse))], .between)
    else if c = '\\' then some ([], .escape read)
    else if c.toNat < 0x20 then none
    else some ([], .string (c :: read))
  | .escape read =>
    if c = 'u' then some ([], .unicode read none 0 0)
    else (escaped? c).map fun d => ([], .string (d :: read))
  | .unicode read lead count value => do
    let d ← hexValue? c
    let value := value * 16 + d
    if count < 3 then return ([], .unicode read lead (count + 1) value)
    match lead with
    | some high =>
      if 0xDC00 ≤ value && value ≤ 0xDFFF then
        return ([], .string (Char.ofNat (0x10000 + (high - 0xD800) * 0x400 + (value - 0xDC00)) ::
          read))
      else failure
    | none =>
      if 0xD800 ≤ value && value ≤ 0xDBFF then return ([], .partner read value false)
      else if 0xDC00 ≤ value && value ≤ 0xDFFF then failure
      else return ([], .string (Char.ofNat value :: read))
  | .partner read lead slash =>
    if !slash then (if c = '\\' then some ([], .partner read lead true) else none)
    else if c = 'u' then some ([], .unicode read (some lead) 0 0) else none

def tokens (mode : Mode) : List Char → Option (List Token)
  | [] =>
    match mode with
    | .between => some []
    | .number read => (readNumber read.reverse).map fun j => [.leaf j]
    | .word read => (wordToken read).map fun t => [t]
    | _ => none
  | c :: cs => do
    let (done, mode) ← step mode c
    let rest ← tokens mode cs
    return done ++ rest

/-! ## Trees -/

/-- An open container with what it holds so far, in reverse. -/
inductive Frame where
  | array (items : List Json)
  /-- An object whose next value goes under `key`. -/
  | object (fields : List (String × Json)) (key : String)

inductive Expect where
  | value | valueOrClose | keyOrClose | key | colon (key : String) | next | finish (j : Json)

/-- A state of the fold over the tokens: the innermost open container first. -/
structure Building where
  expect : Expect
  stack : List Frame

/-- Put a complete value into the innermost container. -/
def Building.put (b : Building) (j : Json) : Building :=
  match b.stack with
  | [] => ⟨.finish j, []⟩
  | .array items :: stack => ⟨.next, .array (j :: items) :: stack⟩
  | .object fields key :: stack => ⟨.next, .object ((key, j) :: fields) "" :: stack⟩

/-- How deep containers may be nested. -/
def maxDepth : Nat := 127

def Building.push (b : Building) (t : Token) : Option Building :=
  let opens := b.stack.length < maxDepth
  match b.expect, t with
  | .value, .leaf j | .valueOrClose, .leaf j => some (b.put j)
  | .value, .openArray | .valueOrClose, .openArray =>
    if opens then some ⟨.valueOrClose, .array [] :: b.stack⟩ else none
  | .value, .openObject | .valueOrClose, .openObject =>
    if opens then some ⟨.keyOrClose, .object [] "" :: b.stack⟩ else none
  | .valueOrClose, .closeArray =>
    match b.stack with
    | .array items :: stack => some (Building.put ⟨.value, stack⟩ (arr items.reverse))
    | _ => none
  | .keyOrClose, .closeObject =>
    match b.stack with
    | .object fields _ :: stack => some (Building.put ⟨.value, stack⟩ (obj fields.reverse))
    | _ => none
  | .keyOrClose, .leaf (.str key) | .key, .leaf (.str key) => some { b with expect := .colon key }
  | .colon key, .colon =>
    match b.stack with
    | .object fields _ :: stack => some ⟨.value, .object fields key :: stack⟩
    | _ => none
  | .next, .comma =>
    match b.stack with
    | .array _ :: _ => some { b with expect := .value }
    | .object _ _ :: _ => some { b with expect := .key }
    | [] => none
  | .next, .closeArray =>
    match b.stack with
    | .array items :: stack => some (Building.put ⟨.value, stack⟩ (arr items.reverse))
    | _ => none
  | .next, .closeObject =>
    match b.stack with
    | .object fields _ :: stack => some (Building.put ⟨.value, stack⟩ (obj fields.reverse))
    | _ => none
  | _, _ => none

/-- Read a document; nothing may follow it. -/
def parse? (s : String) : Option Json := do
  let ts ← tokens .between s.toList
  let b ← ts.foldlM Building.push ⟨.value, []⟩
  match b.expect with
  | .finish j => some j
  | _ => none

example : (parse? "[1, -0, 1.5e1, \"\\u00e9\\ud83e\\udd80\"]").map compress =
    some "[1,-0.0,15.0,\"é🦀\"]" := by decide +kernel
example : (parse? "[01]").isNone ∧ (parse? "\"\\ud83e\"").isNone ∧ (parse? "1 x").isNone := by
  decide +kernel

end Sluice.Json
