/-!
# UTF-8

Text as bytes. Reading is strict (any fault refuses the whole) or lenient (each longest faulty piece
becomes one replacement character).
-/

namespace Sluice.Text

def utf8 (s : String) : List UInt8 := s.toList.flatMap String.utf8EncodeChar

/-- For a leading byte: how many bytes follow, and the bounds of the first of them. -/
def followers? (lead : Nat) : Option (Nat × Nat × Nat) :=
  if lead < 0xC2 then none
  else if lead < 0xE0 then some (1, 0x80, 0xBF)
  else if lead = 0xE0 then some (2, 0xA0, 0xBF)
  else if lead = 0xED then some (2, 0x80, 0x9F)
  else if lead < 0xF0 then some (2, 0x80, 0xBF)
  else if lead = 0xF0 then some (3, 0x90, 0xBF)
  else if lead < 0xF4 then some (3, 0x80, 0xBF)
  else if lead = 0xF4 then some (3, 0x80, 0x8F)
  else none

/-- Take `n` following bytes, the first within bounds; says how many fitted and the value so far. -/
def takeFollowers (n lo hi value : Nat) (bytes : List UInt8) : Nat × Nat :=
  match n, bytes with
  | 0, _ => (0, value)
  | _, [] => (0, value)
  | n + 1, b :: rest =>
    if lo ≤ b.toNat && b.toNat ≤ hi then
      let (taken, value) := takeFollowers n 0x80 0xBF (value * 64 + b.toNat % 64) rest
      (taken + 1, value)
    else (0, value)

/-- The first character of some bytes, none for a fault, and how many bytes it takes up. -/
def firstChar (lead : UInt8) (rest : List UInt8) : Option Char × Nat :=
  let b := lead.toNat
  if b < 0x80 then (some (Char.ofNat b), 1)
  else
    match followers? b with
    | none => (none, 1)
    | some (n, lo, hi) =>
      let bits := if n = 1 then b % 32 else if n = 2 then b % 16 else b % 8
      let (taken, value) := takeFollowers n lo hi bits rest
      (if taken = n then some (Char.ofNat value) else none, taken + 1)

/-- Characters and faults, one after the other. -/
def scanUtf8 : (fuel : Nat) → List UInt8 → List (Option Char)
  | 0, _ => []
  | _, [] => []
  | fuel + 1, b :: rest =>
    let (c, n) := firstChar b rest
    c :: scanUtf8 fuel (rest.drop (n - 1))

/-- The text of bytes without a fault. -/
def ofUtf8? (bytes : List UInt8) : Option String :=
  ((scanUtf8 bytes.length bytes).mapM id).map String.ofList

/-- The text of any bytes, with replacement characters for faults. -/
def ofUtf8Lossy (bytes : List UInt8) : String :=
  String.ofList ((scanUtf8 bytes.length bytes).map fun c => c.getD '\uFFFD')

example : ofUtf8? (utf8 "aé€😀") = some "aé€😀" := by decide +kernel
example : ofUtf8Lossy [0x61, 0xE2, 0x82, 0x62, 0xFF] = "a\uFFFDb\uFFFD" := by decide +kernel
example : ofUtf8? [0xED, 0xA0, 0x80] = none := by decide +kernel

end Sluice.Text
