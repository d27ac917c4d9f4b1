import Sluice.Binary64
import Sluice.Text.Ascii

/-!
# Floats written as decimals

A sign, digits with an optional point among or around them, an optional power of ten; or the words
for infinity and not-a-number in any case. Blanks are not allowed.
-/

namespace Sluice

/-- What a text says, before it is rounded to a format. -/
inductive DecimalFloat where
  /-- `digits * 10 ^ power`. -/
  | finite (negative : Bool) (digits : Nat) (power : Int)
  | infinite (negative : Bool)
  | nan (negative : Bool)
deriving DecidableEq

namespace DecimalFloat

def digitsValue (cs : List Char) : Nat :=
  cs.foldl (fun n c => n * 10 + (c.toNat - '0'.toNat)) 0

/-- A power of ten after its mark: an optional sign and at least one digit, nothing else. -/
def power? : List Char → Option Int
  | [] => some 0
  | mark :: rest =>
    if mark ≠ 'e' && mark ≠ 'E' then none
    else
      let (negative, digits) :=
        match rest with
        | '-' :: ds => (true, ds)
        | '+' :: ds => (false, ds)
        | ds => (false, ds)
      if digits.isEmpty || !digits.all Char.isDigit then none
      else some (if negative then -(digitsValue digits : Int) else digitsValue digits)

/-- Digits with an optional point and power. -/
def number? (negative : Bool) (cs : List Char) : Option DecimalFloat := do
  let whole := cs.takeWhile Char.isDigit
  let rest := cs.dropWhile Char.isDigit
  let (decimals, rest) :=
    match rest with
    | '.' :: tail => (tail.takeWhile Char.isDigit, tail.dropWhile Char.isDigit)
    | rest => ([], rest)
  if whole.isEmpty && decimals.isEmpty then none
  else
    let power ← power? rest
    return finite negative (digitsValue (whole ++ decimals)) (power - decimals.length)

def parse? (s : String) : Option DecimalFloat :=
  let (negative, cs) :=
    match s.toList with
    | '-' :: rest => (true, rest)
    | '+' :: rest => (false, rest)
    | cs => (false, cs)
  match number? negative cs with
  | some x => some x
  | none =>
    let word := Text.lowerAscii (String.ofList cs)
    if word = "inf" || word = "infinity" then some (infinite negative)
    else if word = "nan" then some (nan negative)
    else none

end DecimalFloat

namespace Binary64

/-- Read a float; the decimal is rounded once. -/
def parse? (s : String) : Option Binary64 :=
  (DecimalFloat.parse? s).map fun
    | .finite negative digits power => ofDecimal negative digits power
    | .infinite negative => infinity negative
    | .nan negative => if negative then neg nan else nan

example : (parse? "-.5e1").map (·.bits) = some 0xC014000000000000 := by decide +kernel
example : parse? "1,5" = none ∧ parse? "." = none ∧ parse? "1e" = none := by decide +kernel

end Binary64

end Sluice
