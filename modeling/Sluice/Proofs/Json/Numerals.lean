import Mathlib.Data.List.TakeWhile
import Sluice.Json.Reader
import Sluice.Proofs.Json.Codec
import Sluice.Proofs.Number

/-!
# Numerals in documents

The text of a number is made of the characters of numerals alone. An integer that keeps its digits
is read from it as it is.
-/

namespace Sluice

namespace Json

/-! ## Numbers -/

/-- Characters of a number, the first of which starts one. -/
structure Numeral (cs : List Char) : Prop where
  start : ∃ c ∈ cs.head?, c.isDigit = true ∨ c = '-'
  chars : ∀ c ∈ cs, isNumberChar c = true

/-- A numeral goes on with any characters of numbers. -/
theorem Numeral.append {cs cs' : List Char} (h : Numeral cs)
    (h' : ∀ c ∈ cs', isNumberChar c = true) : Numeral (cs ++ cs') where
  start := by
    obtain ⟨c, hc, hstart⟩ := h.start
    exact ⟨c, by rw [List.head?_append, Option.mem_def.mp hc]; rfl, hstart⟩
  chars := List.forall_mem_append.mpr ⟨h.chars, h'⟩

theorem isDigit_of_mem_toDigits {n : Nat} : ∀ c ∈ Nat.toDigits 10 n, c.isDigit = true :=
  fun _ hc => Nat.isDigit_of_mem_toDigits (by decide) (by decide) hc

end Json

end Sluice
