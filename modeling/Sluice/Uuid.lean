import Sluice.Text.Ascii

/-!
# UUIDs

Sixteen bytes. They are read in four spellings (plain, hyphenated, in braces, as a URN) with digits
of any case, and written hyphenated in lower case.
-/

namespace Sluice

def hexDigit? (c : Char) : Option Nat :=
  if c.isDigit then some (c.toNat - '0'.toNat)
  else if 'a' ≤ c && c ≤ 'f' then some (c.toNat - 'a'.toNat + 10)
  else if 'A' ≤ c && c ≤ 'F' then some (c.toNat - 'A'.toNat + 10)
  else none

/-- Bytes spelled by pairs of hexadecimal digits. -/
def hexBytes? : List Char → Option (List UInt8)
  | [] => some []
  | [_] => none
  | a :: b :: rest => do
    let high ← hexDigit? a
    let low ← hexDigit? b
    let bytes ← hexBytes? rest
    return UInt8.ofNat (16 * high + low) :: bytes

/-- A byte as two lower-case hexadecimal digits. -/
def hexOfByte (b : UInt8) : List Char :=
  [Nat.digitChar (b.toNat / 16), Nat.digitChar (b.toNat % 16)]

/-- Bytes as lower-case hexadecimal digits. -/
def hexOfBytes (bytes : List UInt8) : String := String.ofList (bytes.flatMap hexOfByte)

/-- A universally unique identifier. -/
structure Uuid where
  bytes : List UInt8
deriving DecidableEq, Inhabited

namespace Uuid

/-- The lengths of the groups of digits between hyphens. -/
def groups : List Nat := [8, 4, 4, 4, 12]

/-- Drop the hyphens of a text that has them exactly between the groups. -/
def joinGroups : List Nat → List Char → Option (List Char)
  | [], _ => none
  | [n], cs => if cs.length = n then some cs else none
  | n :: more, cs =>
    match cs.drop n with
    | '-' :: rest => (joinGroups more rest).map (cs.take n ++ ·)
    | _ => none

/-- Sixteen bytes from exactly 32 digits. -/
def ofDigits? (digits : List Char) : Option Uuid :=
  if digits.length = 32 then (hexBytes? digits).map (⟨·⟩) else none

def ofHyphenated? (cs : List Char) : Option Uuid := (joinGroups groups cs).bind ofDigits?

/-- Read any of the four spellings; only the braces and the URN need hyphens inside. -/
def parse? (s : String) : Option Uuid :=
  let cs := s.toList
  match cs with
  | '\x7b' :: rest => if rest.getLast? = some '\x7d' then ofHyphenated? rest.dropLast else none
  | _ =>
    match Text.dropPrefix? "urn:uuid:".toList cs with
    | some rest => ofHyphenated? rest
    | none => if cs.length = 32 then ofDigits? cs else ofHyphenated? cs

/-- Cut a list into pieces of given lengths. -/
def pieces : List Nat → List α → List (List α)
  | [], _ => []
  | n :: more, xs => xs.take n :: pieces more (xs.drop n)

/-- The hyphenated spelling in lower case. -/
def render (u : Uuid) : String :=
  "-".intercalate ((pieces groups (u.bytes.flatMap hexOfByte)).map String.ofList)

example : (parse? "\x7b00112233-4455-6677-8899-AABBCCDDEEFF\x7d").map render =
    some "00112233-4455-6677-8899-aabbccddeeff" := by decide +kernel
example : parse? "00112233-44556677-8899-aabb-ccddeeff" = none := by decide +kernel

end Uuid

end Sluice
