import Mathlib.Tactic.Linarith
import Mathlib.Tactic.Positivity
import Mathlib.Tactic.Ring
import Sluice.Binary64

/-!
# Integers as floats

The float nearest to an integer keeps its 53 leading bits, rounded to the even one in the middle.
It is a whole number again, and the same one exactly if 53 bits were enough.
-/

namespace Sluice.Binary64

/-! ## Patterns -/

section

variable {negative : Bool} {m : Nat} (h : m < signBit)

include h

theorem pattern_ofMagnitude :
    (ofMagnitude negative m).pattern = m + if negative then signBit else 0 := by
  rw [pattern, ofMagnitude, UInt64.toNat_ofNat', Nat.mod_eq_of_lt]
  rw [signBit] at *
  split <;> omega

@[simp] theorem isNegative_ofMagnitude : (ofMagnitude negative m).isNegative = negative := by
  rw [isNegative, pattern_ofMagnitude h]
  rw [signBit] at *
  cases negative with
  | true => simp
  | false => simpa using h

@[simp] theorem magnitude_ofMagnitude : (ofMagnitude negative m).magnitude = m := by
  rw [magnitude, pattern_ofMagnitude h]
  cases negative with
  | true => rw [if_pos rfl, Nat.add_mod_right, Nat.mod_eq_of_lt h]
  | false => exact Nat.mod_eq_of_lt h

end

/-! ## Whole numbers -/

/-- A finite float whose magnitude is a natural number. -/
structure IsWhole (x : Binary64) (n : Nat) : Prop where
  isFinite : x.isFinite = true
  pos : 0 < x.ratio.2
  ratio : x.ratio.1 = n * x.ratio.2

theorem isWhole_of_mantissa {x : Binary64} {n : Nat} (hfinite : x.isFinite = true)
    (h : x.mantissa * 2 ^ x.exponent.toNat = n * 2 ^ (-x.exponent).toNat) : IsWhole x n := by
  refine ⟨hfinite, ?_, ?_⟩
  · rw [ratio, scaleDown]
    split <;> simp [Nat.pow_eq]
  · rw [ratio, scaleDown]
    split
    · have hzero : x.exponent.toNat = 0 := by omega
      simpa [hzero, Nat.pow_eq] using h
    · have hzero : (-x.exponent).toNat = 0 := by omega
      simpa [hzero, Nat.pow_eq] using h

namespace IsWhole

variable {x : Binary64} {n : Nat} (h : IsWhole x n)

include h

theorem nearestNat_eq : x.nearestNat = n := by
  have hpos := h.pos
  rw [nearestNat, divHalfUp, h.ratio, Nat.div_eq_of_lt_le]
  · linarith
  · linarith

theorem isNearWhole : x.isNearWhole = true := by
  have htolerance : 0 < wholeTolerance.ratio.1 := by decide +kernel
  simp only [Binary64.isNearWhole, h.nearestNat_eq, h.ratio, Nat.le_refl, ↓reduceIte, Nat.sub_self,
    Nat.zero_mul, decide_eq_true_eq]
  exact Nat.mul_pos htolerance h.pos

theorem toWhole?_eq :
    x.toWhole? = if n < signBit then some (if x.isNegative then -(n : Int) else n) else none := by
  simp only [toWhole?, h.isFinite, h.isNearWhole, h.nearestNat_eq, Bool.true_and, decide_eq_true_eq]

end IsWhole

/-! ## Rounding -/

theorem divHalfEven_bounds (num den : Nat) :
    num / den ≤ divHalfEven num den ∧ divHalfEven num den ≤ num / den + 1 := by
  rw [divHalfEven]
  split
  · omega
  · split <;> omega

theorem divHalfEven_one (num : Nat) : divHalfEven num 1 = num := by
  rw [divHalfEven, Nat.mod_one, Nat.div_one, if_pos (by decide)]

/-- The whole number with 53 leading bits that is nearest to a number. -/
def nearestWhole (n : Nat) : Nat :=
  divHalfEven n (2 ^ (n.log2 - 52)) * 2 ^ (n.log2 - 52)

theorem nearestWhole_of_log2_lt {n : Nat} (h : n.log2 < 52) : nearestWhole n = n := by
  rw [nearestWhole, Nat.sub_eq_zero_of_le (by omega), Nat.pow_zero, divHalfEven_one, Nat.mul_one]

theorem exponentFor_one {n : Nat} (h : n ≠ 0) : exponentFor n 1 = (n.log2 : Int) - 52 := by
  have hlow := Nat.log2_self_le h
  have hden : (1 : Nat).log2 = 0 := by decide
  have hguess : max (Int.ofNat n.log2 - Int.ofNat (1 : Nat).log2 - 53) (-1074) = (n.log2 : Int) - 53 := by
    rw [hden]
    simp only [Int.ofNat_eq_natCast]
    omega
  have hlarge : ¬ (scaleDown n 1 ((n.log2 : Int) - 53)).1 /
      (scaleDown n 1 ((n.log2 : Int) - 53)).2 < 2 * hiddenBit := by
    have hbits : 2 * hiddenBit = 2 ^ 53 := by decide
    rw [hbits, Nat.not_lt, scaleDown]
    split
    · rename_i hexponent
      have hsplit : n.log2 = 53 + ((n.log2 : Int) - 53).toNat := by omega
      rw [Nat.pow_eq, Nat.one_mul, Nat.le_div_iff_mul_le (by positivity), ← Nat.pow_add, ← hsplit]
      exact hlow
    · rename_i hexponent
      have hsplit : 53 = n.log2 + (-((n.log2 : Int) - 53)).toNat := by omega
      rw [Nat.pow_eq, Nat.div_one]
      calc 2 ^ 53 = 2 ^ n.log2 * 2 ^ (-((n.log2 : Int) - 53)).toNat := by
            rw [← Nat.pow_add, ← hsplit]
        _ ≤ n * 2 ^ (-((n.log2 : Int) - 53)).toNat := Nat.mul_le_mul_right _ hlow
  simp only [exponentFor, hguess]
  rw [if_neg hlarge]
  omega

/-- A mantissa of 53 bits over a biased exponent. -/
theorem isWhole_of_normal {negative : Bool} {e t n : Nat} (hexponent : e ≤ 2045)
    (hlow : hiddenBit ≤ t) (hhigh : t < 2 * hiddenBit)
    (h : t * 2 ^ (e - 1074) = n * 2 ^ (1074 - e)) :
    IsWhole (ofMagnitude negative (e * hiddenBit + t)) n := by
  rw [hiddenBit] at hlow hhigh ⊢
  have hbelow : e * 0x10000000000000 + t < infiniteMagnitude := by
    rw [infiniteMagnitude, hiddenBit]
    omega
  have hmagnitude : (ofMagnitude negative (e * 0x10000000000000 + t)).magnitude =
      e * 0x10000000000000 + t := magnitude_ofMagnitude (hbelow.trans (by decide))
  have hfinite : (ofMagnitude negative (e * 0x10000000000000 + t)).isFinite = true := by
    rw [isFinite, hmagnitude, decide_eq_true_eq]
    exact hbelow
  have hnormal : ¬ e * 0x10000000000000 + t < 0x10000000000000 := by omega
  have hquotient : (e * 0x10000000000000 + t) / 0x10000000000000 = e + 1 := by omega
  have hrest : (e * 0x10000000000000 + t) % 0x10000000000000 + 0x10000000000000 = t := by omega
  have hup : (((e + 1 : Nat) : Int) - 1075).toNat = e - 1074 := by omega
  have hdown : (-(((e + 1 : Nat) : Int) - 1075)).toNat = 1074 - e := by omega
  apply isWhole_of_mantissa hfinite
  rw [mantissa, exponent, hmagnitude, hiddenBit, if_neg hnormal, if_neg hnormal, hquotient, hrest,
    hup, hdown, h]

/-- Also a mantissa that was rounded up to the next power. -/
theorem isWhole_ofMagnitude {negative : Bool} {e t n : Nat} (hexponent : e ≤ 2044)
    (hlow : hiddenBit ≤ t) (hhigh : t ≤ 2 * hiddenBit)
    (h : t * 2 ^ (e - 1074) = n * 2 ^ (1074 - e)) :
    IsWhole (ofMagnitude negative (e * hiddenBit + t)) n := by
  by_cases htop : t = 2 * hiddenBit
  · have hsame : e * hiddenBit + t = (e + 1) * hiddenBit + hiddenBit := by
      rw [htop]
      ring
    rw [hsame]
    apply isWhole_of_normal (by omega) le_rfl (by decide)
    rw [htop] at h
    by_cases hlarge : 1074 ≤ e
    · have hup : e + 1 - 1074 = e - 1074 + 1 := by omega
      have hdown : 1074 - (e + 1) = 1074 - e := by omega
      rw [hup, hdown, ← h, Nat.pow_succ]
      ring
    · have hup : e + 1 - 1074 = e - 1074 := by omega
      have hdown : 1074 - e = 1074 - (e + 1) + 1 := by omega
      rw [hdown, Nat.pow_succ] at h
      rw [hup]
      linarith
  · exact isWhole_of_normal (by omega) hlow (by omega) h

/-- Division by the power of two that leaves 53 bits. -/
theorem div_bounds {n : Nat} (hne : n ≠ 0) (hlog : 52 ≤ n.log2) :
    hiddenBit ≤ n / 2 ^ (n.log2 - 52) ∧ n / 2 ^ (n.log2 - 52) < 2 * hiddenBit := by
  have hlow : hiddenBit * 2 ^ (n.log2 - 52) = 2 ^ n.log2 := by
    rw [show hiddenBit = 2 ^ 52 by decide, ← Nat.pow_add, Nat.add_sub_of_le hlog]
  have hhigh : 2 * hiddenBit * 2 ^ (n.log2 - 52) = 2 ^ (n.log2 + 1) := by
    rw [Nat.mul_assoc, hlow, Nat.pow_succ, Nat.mul_comm]
  constructor
  · rw [Nat.le_div_iff_mul_le (by positivity), hlow]
    exact Nat.log2_self_le hne
  · rw [Nat.div_lt_iff_lt_mul (by positivity), hhigh]
    exact Nat.lt_log2_self

/-- The rounded mantissa of a number. -/
theorem mantissa_of_nat {n e : Nat} (hne : n ≠ 0) (he : e = n.log2 + 1022) :
    ∃ t, divHalfEven (scaleDown n 1 ((n.log2 : Int) - 52)).1
        (scaleDown n 1 ((n.log2 : Int) - 52)).2 = t ∧ hiddenBit ≤ t ∧ t ≤ 2 * hiddenBit ∧
      t * 2 ^ (e - 1074) = nearestWhole n * 2 ^ (1074 - e) := by
  by_cases hlog : 52 ≤ n.log2
  · have hscale : scaleDown n 1 ((n.log2 : Int) - 52) = (n, 2 ^ (n.log2 - 52)) := by
      have hexponent : ((n.log2 : Int) - 52).toNat = n.log2 - 52 := by omega
      rw [scaleDown, if_pos (by omega), hexponent, Nat.one_mul, Nat.pow_eq]
    have hfloor := div_bounds hne hlog
    have hround := divHalfEven_bounds n (2 ^ (n.log2 - 52))
    have hup : e - 1074 = n.log2 - 52 := by omega
    have hdown : 1074 - e = 0 := by omega
    refine ⟨_, rfl, ?_, ?_, ?_⟩
    · rw [hscale]
      exact hfloor.1.trans hround.1
    · rw [hscale]
      exact hround.2.trans hfloor.2
    · rw [hscale, hup, hdown, Nat.pow_zero, Nat.mul_one, nearestWhole]
  · have hscale : scaleDown n 1 ((n.log2 : Int) - 52) = (n * 2 ^ (52 - n.log2), 1) := by
      have hexponent : (-((n.log2 : Int) - 52)).toNat = 52 - n.log2 := by omega
      rw [scaleDown, if_neg (by omega), hexponent, Nat.pow_eq]
    have hexact : nearestWhole n = n := nearestWhole_of_log2_lt (by omega)
    have hup : e - 1074 = 0 := by omega
    have hdown : 1074 - e = 52 - n.log2 := by omega
    have hsplit : n.log2 + (52 - n.log2) = 52 := by omega
    refine ⟨_, rfl, ?_, ?_, ?_⟩
    · rw [hscale, divHalfEven_one]
      calc hiddenBit = 2 ^ n.log2 * 2 ^ (52 - n.log2) := by rw [← Nat.pow_add, hsplit]; rfl
        _ ≤ n * 2 ^ (52 - n.log2) := Nat.mul_le_mul_right _ (Nat.log2_self_le hne)
    · rw [hscale, divHalfEven_one]
      calc n * 2 ^ (52 - n.log2) ≤ 2 ^ (n.log2 + 1) * 2 ^ (52 - n.log2) :=
            Nat.mul_le_mul_right _ Nat.lt_log2_self.le
        _ = 2 * hiddenBit := by rw [← Nat.pow_add, Nat.add_right_comm, hsplit]; rfl
    · rw [hscale, divHalfEven_one, hup, hdown, hexact, Nat.pow_zero, Nat.mul_one]

/-- The float of a natural number, by its rounded mantissa over a biased exponent. -/
theorem ofRatio_one_eq {n e : Nat} (negative : Bool) (hne : n ≠ 0) (he : e = n.log2 + 1022)
    (hlog : n.log2 ≤ 1000) :
    ∃ t, ofRatio negative n 1 = ofMagnitude negative (e * hiddenBit + t) ∧
      e * hiddenBit + t < infiniteMagnitude ∧ hiddenBit ≤ t ∧ t ≤ 2 * hiddenBit ∧
      t * 2 ^ (e - 1074) = nearestWhole n * 2 ^ (1074 - e) := by
  obtain ⟨t, ht, hlow, hhigh, hvalue⟩ := mantissa_of_nat hne he
  have hexponent : ((n.log2 : Int) - 52 + 1074).toNat = e := by omega
  have hfits : e * hiddenBit + t < infiniteMagnitude := by
    rw [infiniteMagnitude]
    rw [hiddenBit] at *
    omega
  refine ⟨t, ?_, hfits, hlow, hhigh, hvalue⟩
  simp only [ofRatio, if_neg hne, exponentFor_one hne, hexponent, ht, Nat.min_eq_left hfits.le]

theorem ofRatio_one {n : Nat} (negative : Bool) (hne : n ≠ 0) (hlog : n.log2 ≤ 1000) :
    IsWhole (ofRatio negative n 1) (nearestWhole n) ∧
      (ofRatio negative n 1).isNegative = negative := by
  obtain ⟨t, hround, hfits, hlow, hhigh, hvalue⟩ := ofRatio_one_eq negative hne rfl hlog
  rw [hround]
  refine ⟨isWhole_ofMagnitude (by omega) hlow hhigh hvalue, isNegative_ofMagnitude ?_⟩
  exact hfits.trans (by decide)

/-- The float of an integer of 64 bits is the nearest integer of 53 leading bits. -/
theorem ofInt_isWhole {n : Int} (h : n.natAbs ≤ 2 ^ 63) :
    IsWhole (ofInt n) (nearestWhole n.natAbs) ∧ (ofInt n).isNegative = decide (n < 0) := by
  by_cases hzero : n = 0
  · rw [hzero]
    refine ⟨isWhole_of_mantissa (by decide +kernel) ?_, by decide +kernel⟩
    decide +kernel
  · have hne : n.natAbs ≠ 0 := by omega
    have hlog : n.natAbs.log2 < 64 := (Nat.log2_lt hne).mpr (by omega)
    exact ofRatio_one _ hne (by omega)

/-! ## Exactness -/

/-- A number that 53 bits and an exponent represent. -/
def IsShort (n : Nat) : Prop := ∃ m k, m < 2 ^ 53 ∧ n = m * 2 ^ k

theorem divHalfEven_mul (n : Nat) {den : Nat} (h : 0 < den) : divHalfEven (n * den) den = n := by
  rw [divHalfEven, Nat.mul_mod_left, Nat.mul_div_cancel n h, if_pos (by omega)]

theorem nearestWhole_isShort (n : Nat) : IsShort (nearestWhole n) := by
  by_cases hlog : 52 ≤ n.log2
  · have hne : n ≠ 0 := by
      rintro rfl
      exact absurd hlog (by decide)
    have hround := divHalfEven_bounds n (2 ^ (n.log2 - 52))
    have hfloor := div_bounds hne hlog
    have hbits : 2 * hiddenBit = 2 ^ 53 := by decide
    by_cases htop : divHalfEven n (2 ^ (n.log2 - 52)) = 2 ^ 53
    · refine ⟨2 ^ 52, n.log2 - 52 + 1, by decide, ?_⟩
      rw [nearestWhole, htop, Nat.pow_succ]
      ring
    · exact ⟨_, n.log2 - 52, by omega, rfl⟩
  · have hlt : n < 2 ^ (n.log2 + 1) := Nat.lt_log2_self
    have hle : 2 ^ (n.log2 + 1) ≤ 2 ^ 53 := Nat.pow_le_pow_right (by decide) (by omega)
    rw [nearestWhole_of_log2_lt (by omega)]
    exact ⟨n, 0, by omega, by omega⟩

theorem nearestWhole_of_isShort {n : Nat} (h : IsShort n) : nearestWhole n = n := by
  obtain ⟨m, k, hm, rfl⟩ := h
  by_cases hzero : m = 0
  · rw [hzero, Nat.zero_mul]
    rfl
  · have hne : m * 2 ^ k ≠ 0 := by positivity
    have hlog : (m * 2 ^ k).log2 < 53 + k := by
      rw [Nat.log2_lt hne, Nat.pow_add]
      exact Nat.mul_lt_mul_of_pos_right hm (by positivity)
    -- No more places are cut off than there are zeros behind the mantissa.
    have hsplit : 2 ^ k = 2 ^ (k - ((m * 2 ^ k).log2 - 52)) * 2 ^ ((m * 2 ^ k).log2 - 52) := by
      rw [← Nat.pow_add]
      congr 1
      omega
    rw [nearestWhole]
    generalize (m * 2 ^ k).log2 - 52 = j at hsplit ⊢
    rw [hsplit, ← Nat.mul_assoc, divHalfEven_mul _ (by positivity)]

/-- Rounding changes exactly the numbers that take more than 53 bits. -/
theorem nearestWhole_eq_iff (n : Nat) : nearestWhole n = n ↔ IsShort n := by
  constructor
  · intro h
    rw [← h]
    exact nearestWhole_isShort n
  · exact nearestWhole_of_isShort

theorem nearestWhole_le {n : Nat} (hne : n ≠ 0) : nearestWhole n ≤ 2 ^ (n.log2 + 1) := by
  by_cases hlog : 52 ≤ n.log2
  · have hround := (divHalfEven_bounds n (2 ^ (n.log2 - 52))).2
    have hfloor := (div_bounds hne hlog).2
    have hpower : 2 * hiddenBit * 2 ^ (n.log2 - 52) = 2 ^ (n.log2 + 1) := by
      have hsplit : n.log2 + 1 = 53 + (n.log2 - 52) := by omega
      rw [hsplit, Nat.pow_add]
      rfl
    rw [← hpower]
    exact Nat.mul_le_mul_right _ (hround.trans hfloor)
  · rw [nearestWhole_of_log2_lt (by omega)]
    exact Nat.lt_log2_self.le

/-- Only the last 512 numbers below `2 ^ 63` are rounded up to it. -/
theorem nearestWhole_lt_iff {n : Nat} (h : n ≤ 2 ^ 63) :
    nearestWhole n < 2 ^ 63 ↔ n < 2 ^ 63 - 512 := by
  by_cases hsmall : n < 2 ^ 62
  · refine iff_of_true ?_ (by omega)
    by_cases hne : n = 0
    · rw [hne]
      decide
    · have hlog := (Nat.log2_lt hne).mpr hsmall
      have hpower : 2 ^ (n.log2 + 1) ≤ 2 ^ 62 := Nat.pow_le_pow_right (by decide) hlog
      have hround := nearestWhole_le hne
      omega
  · by_cases htop : n = 2 ^ 63
    · rw [htop]
      decide +kernel
    · have hne : n ≠ 0 := by omega
      have hlog : n.log2 = 62 := by
        have hhigh := (Nat.log2_lt (k := 63) hne).mpr (by omega)
        have hlow := (Nat.le_log2 (k := 62) hne).mpr (by omega)
        omega
      simp only [nearestWhole, hlog, divHalfEven]
      split
      · omega
      · split <;> omega

/-- These are one and the same float. -/
theorem ofInt_eq_top {n : Int} (hlow : 2 ^ 63 - 512 ≤ n.natAbs) (hhigh : n.natAbs ≤ 2 ^ 63) :
    ofInt n = ofMagnitude (n < 0) (1086 * hiddenBit) := by
  have hne : n.natAbs ≠ 0 := by omega
  by_cases htop : n.natAbs = 2 ^ 63
  · rw [ofInt, htop]
    cases decide (n < 0) <;> decide +kernel
  · have hlog : n.natAbs.log2 = 62 := by
      have hupper := (Nat.log2_lt (k := 63) hne).mpr (by omega)
      have hlower := (Nat.le_log2 (k := 62) hne).mpr (by omega)
      omega
    have hnearest : nearestWhole n.natAbs = 2 ^ 63 := by
      have hround := nearestWhole_le hne
      have hreached := mt (nearestWhole_lt_iff hhigh).mp (by omega)
      rw [hlog] at hround
      omega
    obtain ⟨t, hround, -, -, -, hvalue⟩ :=
      ofRatio_one_eq (e := 1084) (n < 0) hne (by omega) (by omega)
    have ht : t = 2 * hiddenBit := by
      rw [hnearest] at hvalue
      rw [hiddenBit]
      omega
    rw [ofInt, hround, ht]
    congr 1

end Sluice.Binary64
