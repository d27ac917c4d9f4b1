/-!
# NUMERIC in binary

Four words (how many groups, weight, sign, display scale) and then groups of four decimal digits.
Group `i` counts `10000 ^ (weight - i)`; groups that are not there are zero. The text has as many
digits after the point as the display scale says.
-/

namespace Sluice.Postgres

namespace Numeric

/-- Big-endian words of two bytes; an odd byte at the end is no word. -/
def words : List UInt8 → List Nat
  | high :: low :: rest => (high.toNat * 256 + low.toNat) :: words rest
  | _ => []

/-- The group at a position; zero before the first and after the last. -/
def groupAt (groups : List Nat) (i : Int) : Nat :=
  if i < 0 then 0 else (groups[i.toNat]?).getD 0

def fourDigits (group : Nat) : List Char :=
  [group / 1000, group / 100 % 10, group / 10 % 10, group % 10].map Nat.digitChar

/-- The digits before the point: none of the first group's leading zeros, all of the others'. -/
def integerPart (groups : List Nat) (weight : Int) : List Char :=
  if weight < 0 then ['0']
  else
    Nat.toDigits 10 (groupAt groups 0) ++
      (List.range weight.toNat).flatMap fun (i : Nat) => fourDigits (groupAt groups (i + 1))

/-- The digits after the point, cut off where the scale ends. -/
def fractionPart (groups : List Nat) (weight : Int) (scale : Nat) : List Char :=
  ((List.range ((scale + 3) / 4)).flatMap fun (i : Nat) =>
    fourDigits (groupAt groups (weight + i + 1))).take scale

def nanSign : Nat := 0xC000

def negativeSign : Nat := 0x4000

/-- The text of a number with a given sign word. -/
def render (groups : List Nat) (weight : Int) (sign scale : Nat) : String :=
  let fraction := fractionPart groups weight scale
  String.ofList ((if sign = negativeSign then ['-'] else []) ++ integerPart groups weight ++
    if fraction.isEmpty then [] else '.' :: fraction)

/-- Read a payload. The header and all announced groups must be there, each group below ten
thousand; not-a-number needs the header alone. -/
def decode? (raw : List UInt8) : Option String :=
  match words raw with
  | count :: weight :: sign :: scale :: rest =>
    if sign = nanSign then some "NaN"
    else
      let groups := rest.take count
      if groups.length = count && groups.all (· ≤ 9999) then
        some (render groups (Int.bmod weight 65536) sign scale)
      else none
  | _ => none

example : decode? [0, 3, 0, 1, 0, 0, 0, 3, 0, 1, 9, 41, 26, 124] = some "12345.678" := by
  decide +kernel
example : decode? [0, 1, 255, 254, 0, 0, 0, 6, 4, 176] = some "0.000012" := by decide +kernel

end Numeric

end Sluice.Postgres
