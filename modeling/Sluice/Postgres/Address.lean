import Sluice.Text.Ascii
import Sluice.Uuid

/-!
# Network addresses

Whether a text is a numeric network address, of version 4 or 6.
-/

namespace Sluice.Postgres.Address

open Text

/-- A decimal octet without superfluous zeros. -/
def isOctet (cs : List Char) : Bool :=
  match cs with
  | [] => false
  | ['0'] => true
  | '0' :: _ => false
  | cs => cs.length ≤ 3 && cs.all Char.isDigit &&
    cs.foldl (fun n c => n * 10 + (c.toNat - '0'.toNat)) 0 ≤ 255

/-- Four octets with dots between them. -/
def isV4 (cs : List Char) : Bool :=
  let parts := splitChar '.' cs
  parts.length = 4 && parts.all isOctet

/-- A group of one to four hexadecimal digits. -/
def isGroup (cs : List Char) : Bool :=
  1 ≤ cs.length && cs.length ≤ 4 && cs.all fun c => (hexDigit? c).isSome

/-- The number of groups that a colon-separated list stands for; the last item of the whole address
may be of version 4 and then stands for two. -/
def groupCount? (mayEndV4 : Bool) : List (List Char) → Option Nat
  | [] => some 0
  | [cs] => if isGroup cs then some 1 else if mayEndV4 && isV4 cs then some 2 else none
  | cs :: more => if isGroup cs then (groupCount? mayEndV4 more).map (· + 1) else none

def splitDoubleColon : List Char → Option (List Char × List Char)
  | ':' :: ':' :: rest => some ([], rest)
  | c :: rest => (splitDoubleColon rest).map fun (a, b) => (c :: a, b)
  | [] => none

/-- Colon-separated groups; an empty text has none. -/
def listOf (cs : List Char) : List (List Char) := if cs.isEmpty then [] else splitChar ':' cs

/-- Eight groups, or fewer with one double colon for at least one zero group. -/
def isV6 (cs : List Char) : Bool :=
  match splitDoubleColon cs with
  | none => groupCount? true (listOf cs) = some 8
  | some (before, after) =>
    match groupCount? false (listOf before), groupCount? true (listOf after) with
    | some a, some b => a + b ≤ 7
    | _, _ => false

/-- Whether a text is an address of either version. -/
def isNumeric (s : String) : Bool := isV4 s.toList || isV6 s.toList

example : isNumeric "127.0.0.1" ∧ isNumeric "::1" ∧ isNumeric "fe80::1:2" ∧
    isNumeric "::ffff:1.2.3.4" := by decide +kernel
example : ¬isNumeric "01.2.3.4" ∧ ¬isNumeric "1.2.3" ∧ ¬isNumeric ":::" := by decide +kernel

end Sluice.Postgres.Address
