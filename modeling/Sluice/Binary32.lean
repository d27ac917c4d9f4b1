import Sluice.Binary64.Reader

/-!
# Single precision

The 32-bit counterpart of the 64-bit floats: kept as a bit pattern, rounded by exact integers.
-/

namespace Sluice

/-- A float in the IEEE 754 binary32 format, by its bit pattern. -/
structure Binary32 where
  bits : UInt32
deriving DecidableEq, Inhabited

namespace Binary32

/-- The pattern of the sign alone, `2 ^ 31`. -/
def signBit : Nat := 0x80000000

/-- The bit of a mantissa that the pattern leaves out, `2 ^ 23`. -/
def hiddenBit : Nat := 0x800000

/-- The least bit of a 64-bit mantissa that has a place here, `2 ^ 29`. -/
def lastBit : Nat := 0x20000000

/-- The bit that makes not-a-number quiet, `2 ^ 22`. -/
def quietBit : Nat := 0x400000

/-- The pattern of infinity, without its sign. -/
def infiniteMagnitude : Nat := 0xFF * hiddenBit

def ofMagnitude (negative : Bool) (magnitude : Nat) : Binary32 :=
  ⟨UInt32.ofNat (magnitude + if negative then signBit else 0)⟩

/-- The quiet not-a-number value with a sign. -/
def nan (negative : Bool) : Binary32 := ofMagnitude negative (infiniteMagnitude + quietBit)

def isNegative (x : Binary32) : Bool := signBit ≤ x.bits.toNat

def magnitude (x : Binary32) : Nat := x.bits.toNat % signBit

/-- The exponent at which the mantissa of `num / den` has 24 bits, or the least exponent. -/
def exponentFor (num den : Nat) : Int :=
  let guess : Int := max (Int.ofNat num.log2 - Int.ofNat den.log2 - 24) (-149)
  let (n, d) := Binary64.scaleDown num den guess
  if n / d < 2 * hiddenBit then guess else guess + 1

/-- The float nearest to `num / den`, infinite when the magnitude is out of range. -/
def ofRatio (negative : Bool) (num den : Nat) : Binary32 :=
  if num = 0 then ofMagnitude negative 0
  else
    let q := exponentFor num den
    let (n, d) := Binary64.scaleDown num den q
    ofMagnitude negative
      (min ((q + 149).toNat * hiddenBit + Binary64.divHalfEven n d) infiniteMagnitude)

/-- The float nearest to `digits * 10 ^ power`. -/
def ofDecimal (negative : Bool) (digits : Nat) (power : Int) : Binary32 :=
  if digits = 0 then ofMagnitude negative 0
  else if 100 < power then ofMagnitude negative infiniteMagnitude
  else if power + (digits.log2 : Int) < -400 then ofMagnitude negative 0
  else if 0 ≤ power then ofRatio negative (digits * Nat.pow 10 power.toNat) 1
  else ofRatio negative digits (Nat.pow 10 (-power).toNat)

/-- Round a 64-bit float. -/
def ofBinary64 (x : Binary64) : Binary32 :=
  if x.isNaN then
    ofMagnitude x.isNegative (infiniteMagnitude + quietBit + x.magnitude / lastBit % quietBit)
  else if x.isFinite then ofRatio x.isNegative x.ratio.1 x.ratio.2
  else ofMagnitude x.isNegative infiniteMagnitude

/-- Widen to 64 bits; nothing is lost. -/
def toBinary64 (x : Binary32) : Binary64 :=
  let m := x.magnitude
  if infiniteMagnitude < m then
    .ofMagnitude x.isNegative (Binary64.infiniteMagnitude + (quietBit + m % quietBit) * lastBit)
  else if m = infiniteMagnitude then .infinity x.isNegative
  else if m < hiddenBit then .ofRatio x.isNegative m (Nat.pow 2 149)
  else
    .ofRatio x.isNegative ((m % hiddenBit + hiddenBit) * Nat.pow 2 (m / hiddenBit))
      (Nat.pow 2 150)

/-- Read a float; the decimal is rounded once. -/
def parse? (s : String) : Option Binary32 :=
  (DecimalFloat.parse? s).map fun
    | .finite negative digits power => ofDecimal negative digits power
    | .infinite negative => ofMagnitude negative infiniteMagnitude
    | .nan negative => nan negative

example : (ofRatio false 1 10).bits = 0x3DCCCCCD ∧ (ofRatio true 3 2).bits = 0xBFC00000 := by
  decide +kernel
example : (toBinary64 ⟨0x3DCCCCCD⟩).bits = 0x3FB99999A0000000 := by decide +kernel
example : (parse? "1e5").map (·.bits) = some 0x47C35000 := by decide +kernel

end Binary32

end Sluice
