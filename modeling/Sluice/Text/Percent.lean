import Sluice.Text.Utf8
import Sluice.Uuid

/-!
# Percent-encoding

In URLs, a percent sign and two hexadecimal digits stand for one byte.
-/

namespace Sluice.Text

/-- Bytes of a text in which `%` and two hexadecimal digits stand for one byte. -/
def percentBytes : List Char → List UInt8
  | [] => []
  | '%' :: a :: b :: rest =>
    match hexDigit? a, hexDigit? b with
    | some high, some low => UInt8.ofNat (16 * high + low) :: percentBytes rest
    | _, _ => utf8 "%" ++ percentBytes (a :: b :: rest)
  | c :: rest => String.utf8EncodeChar c ++ percentBytes rest

end Sluice.Text
