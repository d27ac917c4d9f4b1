import Sluice.Binary64.Reader
import Sluice.Int64
import Sluice.Text.Utf8
import Sluice.Value

/-!
# Cells

What a column holds has one of five storage classes, whatever type the column was declared with.
The declared type only gives an affinity: a preference for the class in which values are stored.
-/

namespace Sluice.Sqlite

open Text

inductive Cell where
  | null
  | integer (n : Int64)
  | real (x : Binary64)
  | text (s : String)
  | blob (bs : List UInt8)
deriving DecidableEq, Inhabited

/-- A preferred storage class. -/
inductive Affinity where
  | none
  | text
  | numeric
  | integer
  | real
deriving DecidableEq, Inhabited

namespace Affinity

/-- Whether numbers are preferred. -/
def isNumeric : Affinity → Bool
  | numeric | integer | real => true
  | none | text => false

/-- The affinity of a declared type, by the words that occur in it. -/
def ofDeclared (declared : String) : Affinity :=
  let cs := (lowerAscii declared).toList
  let has (part : String) : Bool := occursIn part.toList cs
  if cs.isEmpty then none
  else if has "int" then integer
  else if has "char" || has "clob" || has "text" then text
  else if has "blob" then none
  else if has "real" || has "floa" || has "doub" then real
  else numeric

end Affinity

namespace Cell

/-! ## Values -/

/-- Bind a value; dates and times are stored as text. -/
def ofValue : Value → Cell
  | .null => null
  | .bool b => integer (if b then 1 else 0)
  | .int n => integer n
  | .float x => if x.isNaN then null else real x
  | .decimal s => text s
  | .text s => text s
  | .bytes bs => blob bs
  | .date d => text d.render
  | .time t => text t.render
  | .dateTime t => text (t.render " ")
  | .instant t => text (t.render " ")

/-- Read a cell; bytes that spell a text are that text. -/
def toValue : Cell → Value
  | null => .null
  | integer n => .int n
  | real x => .float x
  | text s => .text s
  | blob bs =>
    match ofUtf8? bs with
    | some s => .text s
    | none => .bytes bs

/-! ## Numbers and text -/

/-- The blanks around a number. -/
def isSpace (c : Char) : Bool :=
  c = ' ' || c = '\t' || c = '\n' || c = '\r' || c = '\x0b' || c = '\x0c'

/-- An integer cell, if the number is in range. -/
def integer? (n : Int) : Option Cell :=
  (int64? n).map integer

/-- A real cell; what is not a number is null. -/
def ofReal (x : Binary64) : Cell := if x.isNaN then null else real x

/-- The integer part of a real, moved to the nearest integer cell if it is none. -/
def wholePart (x : Binary64) : Int :=
  let least := Int64.minValue.toInt
  let greatest := Int64.maxValue.toInt
  if x.isFinite then max least (min x.truncate greatest)
  else if x.isNegative then least
  else greatest

/-- The integer that a real equals, unless it is among the outermost. -/
def wholeOf? (x : Binary64) : Option Cell :=
  if !x.isFinite then Option.none
  else
    let n := x.truncate
    if Binary64.ofInt n = x || x.magnitude = 0 then
      if Int64.minValue.toInt < n && n < Int64.maxValue.toInt then integer? n else Option.none
    else Option.none

/-- The number that a text spells, with blanks around it allowed. -/
def number? (s : String) : Option Cell := do
  let trimmed := (((s.toList.dropWhile isSpace).reverse).dropWhile isSpace).reverse
  let (negative, cs) := match trimmed with
    | '-' :: rest => (true, rest)
    | '+' :: rest => (false, rest)
    | cs => (false, cs)
  let x ← DecimalFloat.number? negative cs
  match x with
  | .finite negative digits power =>
    let n : Int := if negative then -digits else digits
    if cs.all Char.isDigit then
      return (integer? n).getD (ofReal (.ofDecimal negative digits power))
    else return ofReal (.ofDecimal negative digits power)
  | _ => Option.none

/-- The number at the start of a text, else zero. -/
def leadingNumber (s : String) : Cell :=
  let cs := s.toList.dropWhile isSpace
  ((List.range (cs.length + 1)).reverse.findSome? fun n =>
    number? (String.ofList (cs.take n))).getD (integer 0)

/-- A real with 15 significant digits, always with a point. -/
def realText (x : Binary64) : String :=
  let sign := if x.isNegative && x.magnitude ≠ 0 then "-" else ""
  if !x.isFinite then (if x.isNegative then "-Inf" else "Inf")
  else if x.magnitude = 0 then "0.0"
  else
    let nearest := ((x.candidates 15).head?).getD ⟨0, 0⟩
    let d := Binary64.stripZeros 20 nearest
    let digits := toString d.digits
    let p := d.power + digits.length
    if -4 < p && p ≤ 15 then sign ++ Binary64.positionalText true digits p
    else
      let e := p - 1
      let mantissa := match digits.toList with
        | [] => "0.0"
        | [c] => String.singleton c ++ ".0"
        | c :: rest => String.singleton c ++ "." ++ String.ofList rest
      sign ++ mantissa ++ (if e < 0 then "e-" else "e+") ++ padLeft 2 '0' (toString e.natAbs)

/-- The text of a cell; null has none. -/
def toText? : Cell → Option String
  | null => Option.none
  | integer n => some (toString n.toInt)
  | real x => some (realText x)
  | text s => some s
  | blob bs => some (ofUtf8Lossy bs)

/-- The number of a cell, for arithmetic. -/
def toNumber : Cell → Cell
  | text s => leadingNumber s
  | blob bs => leadingNumber (ofUtf8Lossy bs)
  | c => c

/-- The integer that a text begins with, moved to the nearest integer cell if it is none; else
zero. -/
def leadingInteger (s : String) : Int :=
  let cs := s.toList.dropWhile isSpace
  let (negative, cs) := match cs with
    | '-' :: rest => (true, rest)
    | '+' :: rest => (false, rest)
    | cs => (false, cs)
  let n : Int := (cs.takeWhile Char.isDigit).foldl (fun n d => n * 10 + (d.toNat - 48)) 0
  if negative then max (-n) Int64.minValue.toInt else min n Int64.maxValue.toInt

/-- The integer of a cell, at any loss. -/
def toWhole : Cell → Int
  | null => 0
  | integer n => n.toInt
  | real x => wholePart x
  | text s => leadingInteger s
  | blob bs => leadingInteger (ofUtf8Lossy bs)

def toReal : Cell → Binary64
  | integer n => .ofInt n.toInt
  | real x => x
  | _ => .zero

/-! ## Affinity -/

/-- Convert a cell to the preferred class where nothing is lost. -/
def coerce (a : Affinity) (c : Cell) : Cell :=
  match a, c with
  | .text, integer n => text (toString n.toInt)
  | .text, real x => text (realText x)
  | .real, integer n => real (.ofInt n.toInt)
  | .real, text s =>
    match number? s with
    | some n => real n.toReal
    | Option.none => c
  | .numeric, real x => (wholeOf? x).getD c
  | .integer, real x => (wholeOf? x).getD c
  | a, text s =>
    if a.isNumeric then
      match number? s with
      | some (real x) => (wholeOf? x).getD (real x)
      | some n => n
      | Option.none => c
    else c
  | _, c => c

/-! ## Order -/

/-- Compare an integer with a float exactly. -/
def compareReal (n : Int) (x : Binary64) : Ordering :=
  if !x.isFinite then (if x.isNegative then .gt else .lt)
  else compare (n * (x.ratio.2 : Int)) (x.signedNumerator x.ratio.2)

/-- Compare two finite or infinite floats. -/
def compareReals (x y : Binary64) : Ordering :=
  let key (z : Binary64) : Int := if z.isNegative then -(z.magnitude : Int) else z.magnitude
  compare (key x) (key y)

/-- Compare lists element by element; a shorter one comes first. -/
def compareNats : List Nat → List Nat → Ordering
  | [], [] => .eq
  | [], _ => .lt
  | _, [] => .gt
  | a :: as, b :: bs => (compare a b).then (compareNats as bs)

/-- Storage classes in order: null, numbers, text, blobs. -/
def rank : Cell → Nat
  | null => 0
  | integer _ | real _ => 1
  | text _ => 2
  | blob _ => 3

def order : Cell → Cell → Ordering
  | integer a, integer b => compare a.toInt b.toInt
  | integer a, real y => compareReal a.toInt y
  | real x, integer b => (compareReal b.toInt x).swap
  | real x, real y => compareReals x y
  | text s, text t => compareNats ((utf8 s).map (·.toNat)) ((utf8 t).map (·.toNat))
  | blob a, blob b => compareNats (a.map (·.toNat)) (b.map (·.toNat))
  | a, b => compare a.rank b.rank

/-- Whether a condition holds: a nonzero number; null is neither true nor false. -/
def truth? : Cell → Option Bool
  | null => Option.none
  | c =>
    match c.toNumber with
    | integer n => some (n ≠ 0)
    | real x => some (x.magnitude ≠ 0)
    | _ => some false

def ofTruth : Option Bool → Cell
  | Option.none => null
  | some b => integer (if b then 1 else 0)

example : coerce .numeric (text " 9.50 ") = real (.ofDecimal false 95 (-1)) := by decide +kernel
example : coerce .integer (text "1e2") = integer 100 ∧ coerce .integer (text "x") = text "x" := by
  decide +kernel
example : realText (.ofDecimal false 1 300) = "1.0e+300" ∧ realText (.ofInt 3) = "3.0" := by
  decide +kernel

end Cell

end Sluice.Sqlite
