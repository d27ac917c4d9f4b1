/-!
# Integers of 64 bits

Numbers come as integers of any size; those of 64 bits with a sign are what most formats hold.
-/

namespace Sluice

/-- Whether an integer fits 64 bits. -/
def fitsInt64 (n : Int) : Bool := Int64.minValue.toInt ≤ n && n ≤ Int64.maxValue.toInt

/-- An integer of 64 bits, if it fits. -/
def int64? (n : Int) : Option Int64 := if fitsInt64 n then some (Int64.ofInt n) else none

end Sluice
