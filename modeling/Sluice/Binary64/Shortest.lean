import Sluice.Binary64

/-!
# Shortest decimal text of a float

Of the decimals that read back to a given float, the text shows one with the fewest digits, and
of those the nearest. `Layout` says how the digits are then laid out.
-/

namespace Sluice.Binary64

/-- A decimal `digits * 10 ^ power`. -/
structure Decimal where
  digits : Nat
  power : Int
deriving DecidableEq

/-- `num / den < num' / den'` by cross multiplication. -/
def ratioLt (p q : Nat × Nat) : Bool := p.1 * q.2 < q.1 * p.2

/-- Whether the decimal rounds to the finite nonzero magnitude of `x`. -/
def readsBack (x : Binary64) (d : Decimal) : Bool :=
  let m := x.mantissa
  -- quarter units keep both half-way points integral, also at a power of two
  let below := if m = hiddenBit && x.exponent != -1074 then 4 * m - 1 else 4 * m - 2
  let above := 4 * m + 2
  let value : Nat × Nat :=
    if 0 ≤ d.power then (d.digits * Nat.pow 10 d.power.toNat, 1)
    else (d.digits, Nat.pow 10 (-d.power).toNat)
  let lo := scaleDown below 1 (-(x.exponent - 2))
  let hi := scaleDown above 1 (-(x.exponent - 2))
  if m % 2 = 0 then !ratioLt value lo && !ratioLt hi value
  else ratioLt lo value && ratioLt value hi

/-- The number of decimal digits of the integer part of `num / den`, for a quotient of at least
one; otherwise one less than the number of zeros after the point, negated. -/
def decimalMagnitude (num den : Nat) : Int :=
  if den ≤ num then ((Nat.toDigits 10 (num / den)).length : Int)
  else 1 - ((Nat.toDigits 10 ((den - 1) / num)).length : Int)

/-- Candidates with `n` digits, at most two neighbours of the value; the nearer first. -/
def candidates (x : Binary64) (n : Nat) : List Decimal :=
  let (num, den) := x.ratio
  let power := decimalMagnitude num den - n
  let (a, b) : Nat × Nat :=
    if 0 ≤ power then (num, den * Nat.pow 10 power.toNat)
    else (num * Nat.pow 10 (-power).toNat, den)
  let floor : Decimal := ⟨a / b, power⟩
  let ceil : Decimal := ⟨a / b + 1, power⟩
  if 2 * (a % b) < b then [floor, ceil] else [ceil, floor]

/-- Search for the fewest digits, with at most `fuel` more lengths to try from `n` on. -/
def searchShortest (x : Binary64) : (fuel n : Nat) → Option Decimal
  | 0, _ => none
  | fuel + 1, n =>
    match (candidates x n).find? (readsBack x) with
    | some d => some d
    | none => searchShortest x fuel (n + 1)

/-- Drop trailing zeros of the digits; `fuel` bounds their number. -/
def stripZeros : (fuel : Nat) → Decimal → Decimal
  | 0, d => d
  | fuel + 1, d =>
    if d.digits ≠ 0 && d.digits % 10 = 0 then stripZeros fuel ⟨d.digits / 10, d.power + 1⟩ else d

/-- The shortest decimal that reads back to the magnitude of a finite value. -/
def shortest (x : Binary64) : Decimal :=
  if x.magnitude = 0 then ⟨0, 0⟩
  else stripZeros 20 ((searchShortest x 17 1).getD ⟨0, 0⟩)

/-- How digits become text. -/
structure Layout where
  /-- Point positions written without an exponent: `0 < p` counts digits before the point,
  `p ≤ 0` zeros after it. -/
  positional : Int → Bool
  /-- Whether a whole number ends in `.0`. -/
  pointZero : Bool

/-- Digits with the point after the first `p` of them, padded with zeros. -/
def positionalText (pointZero : Bool) (digits : String) (p : Int) : String :=
  let count : Int := digits.length
  if p ≤ 0 then "0." ++ String.ofList (List.replicate (-p).toNat '0') ++ digits
  else if count ≤ p then
    digits ++ String.ofList (List.replicate (p - count).toNat '0') ++
      (if pointZero then ".0" else "")
  else
    String.ofList (digits.toList.take p.toNat) ++ "." ++ String.ofList (digits.toList.drop p.toNat)

/-- Digits with a point after the first and an exponent. -/
def exponentText (digits : String) (p : Int) : String :=
  match digits.toList with
  | [] => ""
  | [d] => String.singleton d ++ "e" ++ toString (p - 1)
  | d :: rest => String.singleton d ++ "." ++ String.ofList rest ++ "e" ++ toString (p - 1)

def render (layout : Layout) (x : Binary64) : String :=
  if x.isNaN then "NaN"
  else
    let sign := if x.isNegative then "-" else ""
    if !x.isFinite then sign ++ "inf"
    else if x.magnitude = 0 then sign ++ (if layout.pointZero then "0.0" else "0")
    else
      let d := x.shortest
      let digits := toString d.digits
      let p := d.power + digits.length
      sign ++ (if layout.positional p then positionalText layout.pointZero digits p
        else exponentText digits p)

/-- Plain numbers: never an exponent and no point in a whole number. -/
def Layout.plain : Layout := ⟨fun _ => true, false⟩

/-- Data interchange: between `1e-5` and `1e16` without an exponent, whole numbers with `.0`. -/
def Layout.interchange : Layout := ⟨fun p => -5 < p && p ≤ 16, true⟩

instance : ToString Binary64 := ⟨render .plain⟩

example : render .plain (ofDecimal false 15 (-1)) = "1.5" := by decide +kernel
example : render .plain (ofDecimal true 0 0) = "-0" := by decide +kernel
example : render .plain (ofDecimal false 1 (-7)) = "0.0000001" := by decide +kernel
example : render .plain (ofMagnitude false 1) =
    "0." ++ String.ofList (List.replicate 323 '0') ++ "5" := by decide +kernel
example : render .interchange (ofDecimal false 1 21) = "1e21" := by decide +kernel
example : render .interchange (ofDecimal false 123 0) = "123.0" := by decide +kernel
example : render .interchange (mul (ofInt 3) (ofDecimal false 1 (-1))) = "0.30000000000000004" := by
  decide +kernel

end Sluice.Binary64
