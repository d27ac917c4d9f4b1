/-!
# Binary floating point by exact integers

A 64-bit float is kept as its bit pattern. Every operation decodes its arguments to
`mantissa * 2 ^ exponent`, computes exactly on integers, and rounds once, to the nearest value
with ties to the even mantissa. Nothing here uses machine floats, so each result can be reasoned
about, and evaluated, as integer arithmetic.
-/

namespace Sluice

/-- A float in the IEEE 754 binary64 format, by its bit pattern. -/
structure Binary64 where
  bits : UInt64
deriving DecidableEq, Inhabited

namespace Binary64

/-! ## Parts of the bit pattern -/

/-- The bit pattern as a natural number below `2 ^ 64`. -/
def pattern (x : Binary64) : Nat := x.bits.toNat

/-- The pattern of the sign alone, `2 ^ 63`. -/
def signBit : Nat := 0x8000000000000000

/-- The bit of a mantissa that the pattern leaves out, `2 ^ 52`. -/
def hiddenBit : Nat := 0x10000000000000

def isNegative (x : Binary64) : Bool := signBit ≤ x.pattern

/-- The pattern without its sign bit: it grows with the magnitude. -/
def magnitude (x : Binary64) : Nat := x.pattern % signBit

/-- The least magnitude pattern that is not a number's: infinity. -/
def infiniteMagnitude : Nat := 0x7FF * hiddenBit

/-- Neither infinite nor not-a-number. -/
def isFinite (x : Binary64) : Bool := x.magnitude < infiniteMagnitude

def isNaN (x : Binary64) : Bool := infiniteMagnitude < x.magnitude

def ofMagnitude (negative : Bool) (magnitude : Nat) : Binary64 :=
  ⟨UInt64.ofNat (magnitude + if negative then signBit else 0)⟩

def infinity (negative : Bool) : Binary64 := ofMagnitude negative infiniteMagnitude

/-- The quiet not-a-number value. -/
def nan : Binary64 := ⟨0x7FF8000000000000⟩

def zero : Binary64 := ⟨0⟩

/-- The integer mantissa of a finite value. -/
def mantissa (x : Binary64) : Nat :=
  if x.magnitude < hiddenBit then x.magnitude else x.magnitude % hiddenBit + hiddenBit

/-- The power of two that goes with `mantissa`. -/
def exponent (x : Binary64) : Int :=
  if x.magnitude < hiddenBit then -1074 else (x.magnitude / hiddenBit : Nat) - 1075

/-! ## Rounding -/

/-- The natural number nearest to `num / den`, ties to the even one. -/
def divHalfEven (num den : Nat) : Nat :=
  let floor := num / den
  let twice := 2 * (num % den)
  if twice < den then floor
  else if den < twice then floor + 1
  else floor + floor % 2

/-- The natural number nearest to `num / den`, ties upwards. -/
def divHalfUp (num den : Nat) : Nat :=
  (2 * num + den) / (2 * den)

/-- `num / den` divided by `2 ^ q`, as a pair of naturals. -/
def scaleDown (num den : Nat) (q : Int) : Nat × Nat :=
  if 0 ≤ q then (num, den * Nat.pow 2 q.toNat) else (num * Nat.pow 2 (-q).toNat, den)

/-- The exponent at which the mantissa of `num / den` has 53 bits, or the least exponent. -/
def exponentFor (num den : Nat) : Int :=
  let guess : Int := max (Int.ofNat num.log2 - Int.ofNat den.log2 - 53) (-1074)
  let (n, d) := scaleDown num den guess
  if n / d < 2 * hiddenBit then guess else guess + 1

/-- The float nearest to `num / den`, infinite when the magnitude is out of range. -/
def ofRatio (negative : Bool) (num den : Nat) : Binary64 :=
  if num = 0 then ofMagnitude negative 0
  else
    let q := exponentFor num den
    let (n, d) := scaleDown num den q
    ofMagnitude negative (min ((q + 1074).toNat * hiddenBit + divHalfEven n d) infiniteMagnitude)

/-- The float nearest to an integer. -/
def ofInt (n : Int) : Binary64 := ofRatio (n < 0) n.natAbs 1

/-- The float nearest to `digits * 10 ^ power`. -/
def ofDecimal (negative : Bool) (digits : Nat) (power : Int) : Binary64 :=
  if digits = 0 then ofMagnitude negative 0
  else if 400 < power then infinity negative
  else if power + (digits.log2 : Int) < -1500 then ofMagnitude negative 0
  else if 0 ≤ power then ofRatio negative (digits * Nat.pow 10 power.toNat) 1
  else ofRatio negative digits (Nat.pow 10 (-power).toNat)

/-! ## Arithmetic -/

/-- `mantissa * 2 ^ exponent` as a quotient of naturals. -/
def ratio (x : Binary64) : Nat × Nat := scaleDown x.mantissa 1 (-x.exponent)

/-- Product, rounded once. -/
def mul (x y : Binary64) : Binary64 :=
  let negative := x.isNegative != y.isNegative
  if x.isNaN || y.isNaN then nan
  else if x.isFinite && y.isFinite then
    ofRatio negative (x.ratio.1 * y.ratio.1) (x.ratio.2 * y.ratio.2)
  else if x.magnitude = 0 || y.magnitude = 0 then nan
  else infinity negative

/-- The exact value of a finite float as a signed numerator over a common denominator. -/
def signedNumerator (x : Binary64) (den : Nat) : Int :=
  let n : Int := x.ratio.1 * (den / x.ratio.2)
  if x.isNegative then -n else n

/-- Sum, rounded once. A zero sum of unlike signs is positive. -/
def add (x y : Binary64) : Binary64 :=
  if x.isNaN || y.isNaN then nan
  else if !x.isFinite then
    if y.isFinite || x.isNegative == y.isNegative then x else nan
  else if !y.isFinite then y
  else
    let den := max x.ratio.2 y.ratio.2
    let sum := x.signedNumerator den + y.signedNumerator den
    if sum = 0 then ofMagnitude (x.isNegative && y.isNegative) 0
    else ofRatio (sum < 0) sum.natAbs den

/-- Quotient of finite values with a nonzero divisor, rounded once. -/
def divFinite (x y : Binary64) : Binary64 :=
  ofRatio (x.isNegative != y.isNegative) (x.ratio.1 * y.ratio.2) (x.ratio.2 * y.ratio.1)

/-- Quotient, rounded once; a nonzero value over zero is infinite, and a quotient of two zeros or
of two infinities is not a number. -/
def div (x y : Binary64) : Binary64 :=
  let negative := x.isNegative != y.isNegative
  if x.isNaN || y.isNaN then nan
  else if !x.isFinite then (if y.isFinite then infinity negative else nan)
  else if !y.isFinite then ofMagnitude negative 0
  else if y.magnitude ≠ 0 then x.divFinite y
  else if x.magnitude ≠ 0 then infinity negative
  else nan

/-- The same magnitude with the other sign. -/
def neg (x : Binary64) : Binary64 := ofMagnitude (!x.isNegative) x.magnitude

/-- The integer part of a finite value. -/
def truncate (x : Binary64) : Int :=
  let n : Int := x.ratio.1 / x.ratio.2
  if x.isNegative then -n else n

/-- The natural number nearest to the magnitude of a finite value, halves away from zero. -/
def nearestNat (x : Binary64) : Nat := divHalfUp x.ratio.1 x.ratio.2

/-- How close to a whole number a value must be to count as one: the float nearest to `1e-9`. -/
def wholeTolerance : Binary64 := ofRatio false 1 1000000000

/-- Whether a finite value lies closer than `wholeTolerance` to its nearest whole number. -/
def isNearWhole (x : Binary64) : Bool :=
  let (n, d) := x.ratio
  let (a, b) := wholeTolerance.ratio
  let whole := x.nearestNat * d
  (if n ≤ whole then whole - n else n - whole) * b < a * d

/-- The nearest integer of a value that is close enough to one and below `2 ^ 63` in magnitude. -/
def toWhole? (x : Binary64) : Option Int :=
  if x.isFinite && x.isNearWhole && x.nearestNat < signBit then
    some (if x.isNegative then -(x.nearestNat : Int) else x.nearestNat)
  else none

end Binary64

end Sluice
