/-!
# Big-endian integers

Integers as bytes of a fixed width, the most significant first, negative ones in two's complement.
-/

namespace Sluice.Bytes

/-- The last `width` bytes of a natural number, the most significant first. -/
def ofNat : (width n : Nat) → List UInt8
  | 0, _ => []
  | width + 1, n => ofNat width (n / 256) ++ [UInt8.ofNat (n % 256)]

/-- The natural number that bytes spell. -/
def toNat (bytes : List UInt8) : Nat := bytes.foldl (fun n b => n * 256 + b.toNat) 0

/-- An integer in two's complement. -/
def ofInt (width : Nat) (n : Int) : List UInt8 := ofNat width (n % (Nat.pow 256 width : Nat)).toNat

/-- Read an integer of exactly `width` bytes. -/
def toInt? (width : Nat) (bytes : List UInt8) : Option Int :=
  if bytes.length = width then some (Int.bmod (toNat bytes) (Nat.pow 256 width)) else none

example : ofInt 2 (-2) = [255, 254] ∧ toInt? 2 [255, 254] = some (-2) := by decide
example : toInt? 2 [1, 2, 3] = none ∧ toInt? 4 [128, 0, 0, 0] = some (-2147483648) := by decide

end Sluice.Bytes
