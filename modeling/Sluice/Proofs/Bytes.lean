import Mathlib.Tactic.Positivity
import Mathlib.Tactic.Ring
import Sluice.Bytes

/-!
# Reading integers back

Bytes written for an integer spell the integer again, where it fits their width.
-/

namespace Sluice.Bytes

@[simp] theorem length_ofNat (width n : Nat) : (ofNat width n).length = width := by
  induction width generalizing n with
  | zero => rfl
  | succ width ih => rw [ofNat, List.length_append, ih, List.length_singleton]

@[simp] theorem length_ofInt (width : Nat) (n : Int) : (ofInt width n).length = width :=
  length_ofNat _ _

theorem toNat_concat (bytes : List UInt8) (b : UInt8) :
    toNat (bytes ++ [b]) = toNat bytes * 256 + b.toNat := by
  rw [toNat, List.foldl_append]
  rfl

theorem toNat_cons (b : UInt8) (bytes : List UInt8) :
    toNat (b :: bytes) = b.toNat * 256 ^ bytes.length + toNat bytes := by
  induction bytes using List.reverseRecOn with
  | nil => simp [toNat]
  | append_singleton bytes last ih =>
      rw [← List.cons_append, toNat_concat, toNat_concat, ih, List.length_append,
        List.length_singleton, Nat.pow_succ]
      ring

theorem toNat_lt (bytes : List UInt8) : toNat bytes < 256 ^ bytes.length := by
  induction bytes with
  | nil => decide
  | cons b bytes ih =>
      have hb := b.toNat_lt
      rw [toNat_cons, List.length_cons, Nat.pow_succ]
      calc b.toNat * 256 ^ bytes.length + toNat bytes
          < (b.toNat + 1) * 256 ^ bytes.length := by rw [Nat.succ_mul]; omega
        _ ≤ 256 * 256 ^ bytes.length := Nat.mul_le_mul_right _ (by omega)
        _ = 256 ^ bytes.length * 256 := Nat.mul_comm _ _

theorem toNat_ofNat (width n : Nat) : toNat (ofNat width n) = n % 256 ^ width := by
  induction width generalizing n with
  | zero => rw [Nat.pow_zero, Nat.mod_one]; rfl
  | succ width ih =>
      have hlast : (UInt8.ofNat (n % 256)).toNat = n % 256 := by simp
      rw [ofNat, toNat_concat, ih, hlast, Nat.pow_succ', Nat.mod_mul]
      omega

theorem toInt?_of_length_ne {width : Nat} {bytes : List UInt8} (h : bytes.length ≠ width) :
    toInt? width bytes = none :=
  if_neg h

/-- An integer within the bounds of its width is read as what it was. -/
theorem toInt?_ofInt {width : Nat} {n : Int} (hlow : -((256 ^ width : Nat) / 2 : Int) ≤ n)
    (hhigh : n < ((256 ^ width : Nat) + 1 : Int) / 2) : toInt? width (ofInt width n) = some n := by
  have hpos : (0 : Int) < (256 ^ width : Nat) := by positivity
  have hspelled : (toNat (ofInt width n) : Int) = n % (256 ^ width : Nat) := by
    have hlt := Int.emod_lt_of_pos n hpos
    rw [ofInt, toNat_ofNat, Nat.pow_eq, Nat.mod_eq_of_lt (by omega),
      Int.toNat_of_nonneg (Int.emod_nonneg n hpos.ne')]
  rw [toInt?, if_pos (length_ofInt width n), hspelled, Nat.pow_eq, Int.emod_bmod,
    Int.bmod_eq_of_le hlow hhigh]

end Sluice.Bytes
