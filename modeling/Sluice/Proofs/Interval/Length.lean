import Sluice.Proofs.Binary64.Integers
import Sluice.Proofs.Interval.Literals

/-!
# Lengths of whole amounts

In a plain unit an integer stands for as long an interval as before. A driver with integral
intervals gets it by way of a float: that keeps the amounts of 53 bits, and no others.
-/

namespace Sluice

/-! ## Integers of 64 bits -/

theorem fitsInt64_iff {n : Int} :
    fitsInt64 n = true ↔ Int64.minValue.toInt ≤ n ∧ n ≤ Int64.maxValue.toInt := by
  rw [fitsInt64, Bool.and_eq_true, decide_eq_true_eq, decide_eq_true_eq]

theorem natAbs_le_of_fitsInt64 {n : Int} (h : fitsInt64 n = true) : n.natAbs ≤ 2 ^ 63 := by
  obtain ⟨hlow, hhigh⟩ := fitsInt64_iff.mp h
  have hmin : Int64.minValue.toInt = -2 ^ 63 := rfl
  have hmax : Int64.maxValue.toInt = 2 ^ 63 - 1 := rfl
  omega

theorem fitsInt64_of_natAbs_lt {n : Int} (h : n.natAbs < 2 ^ 63) : fitsInt64 n = true := by
  have hmin : Int64.minValue.toInt = -2 ^ 63 := rfl
  have hmax : Int64.maxValue.toInt = 2 ^ 63 - 1 := rfl
  apply fitsInt64_iff.mpr
  omega

theorem int64?_of_fits {n : Int} (h : fitsInt64 n = true) : int64? n = some (Int64.ofInt n) :=
  if_pos h

theorem int64?_eq_none_iff {n : Int} : int64? n = none ↔ ¬ fitsInt64 n = true := by
  rw [int64?]
  split <;> simp [*]

theorem toInt_ofInt_of_fits {n : Int} (h : fitsInt64 n = true) : (Int64.ofInt n).toInt = n := by
  obtain ⟨hlow, hhigh⟩ := fitsInt64_iff.mp h
  exact Int64.toInt_ofInt_of_le hlow (Int.lt_of_le_of_lt hhigh (by decide))

theorem fitsInt64_toInt (n : Int64) : fitsInt64 n.toInt = true :=
  fitsInt64_iff.mpr ⟨n.minValue_le_toInt, n.toInt_le⟩

theorem int64?_toInt (n : Int64) : int64? n.toInt = some n := by
  rw [int64?_of_fits (fitsInt64_toInt n), Int64.ofInt_toInt]

/-! ## Lengths -/

/-- The length of an interval. Months have no fixed number of days. -/
structure Span where
  months : Int
  milliseconds : Int
deriving DecidableEq

namespace IntervalUnit

/-- The length of an amount. -/
def span (n : Int) : IntervalUnit → Span
  | millisecond => ⟨0, n⟩
  | second => ⟨0, n * 1000⟩
  | minute => ⟨0, n * 60000⟩
  | hour => ⟨0, n * 3600000⟩
  | day => ⟨0, n * 86400000⟩
  | week => ⟨0, n * 604800000⟩
  | month => ⟨n, 0⟩
  | quarter => ⟨n * 3, 0⟩
  | year => ⟨n * 12, 0⟩

theorem span_plain (unit : IntervalUnit) (n : Int) :
    unit.plain.1.span (n * unit.plain.2) = unit.span n := by
  cases unit <;> simp [plain, span, Int.mul_assoc]

theorem span_injective (unit : IntervalUnit) {n m : Int} (h : unit.span n = unit.span m) : n = m := by
  cases unit <;> simp only [span, Span.mk.injEq] at h <;> omega

end IntervalUnit

namespace Interval

variable {d : Driver} {unit : IntervalUnit}

/-! ## Plain units -/

/-- The amount in the plain unit, over the integers. -/
def plainAmount (unit : IntervalUnit) (n : Int64) : Int := n.toInt * unit.plain.2

theorem plainAmount_of_isPlain (h : unit.IsPlain) (n : Int64) : plainAmount unit n = n.toInt := by
  rw [plainAmount, IntervalUnit.plain_of_isPlain h]
  exact Int.mul_one _

theorem plainForm_int {n m : Int64} (h : int64? (plainAmount unit n) = some m) :
    ∃ form, plainForm unit (.int n) = .ok (unit.plain.1, form) ∧ form.apply (.int n) = .int m := by
  rw [plainForm_eq]
  split
  · rename_i hplain
    rw [plainAmount_of_isPlain hplain, int64?_toInt] at h
    rw [IntervalUnit.plain_of_isPlain hplain]
    exact ⟨.same, rfl, congrArg Expr.int (Option.some.inj h)⟩
  · refine ⟨.literal (.int m), ?_, rfl⟩
    have hscale : scale (.int n) unit.plain.2 = .ok (.literal (.int m)) := by
      rw [plainAmount] at h
      rw [Expr.int, scale]
      simp only [h]
    rw [hscale]
    rfl

theorem plainForm_int_error {n : Int64} (h : int64? (plainAmount unit n) = none) :
    plainForm unit (.int n) = .error (.translation (.amountOutOfRange n)) := by
  rw [plainForm_eq]
  split
  · rename_i hplain
    rw [plainAmount_of_isPlain hplain, int64?_toInt] at h
    exact nomatch h
  · have hscale : scale (.int n) unit.plain.2 = .error (.translation (.amountOutOfRange n)) := by
      rw [plainAmount] at h
      rw [Expr.int, scale]
      simp only [h]
    rw [hscale]
    rfl

/-! ## Amounts as floats -/

/-- An integer, as the float that a driver gets it by. -/
def floatAmount (n : Int) : Int :=
  if n < 0 then -(Binary64.nearestWhole n.natAbs : Int) else Binary64.nearestWhole n.natAbs

theorem natAbs_floatAmount (n : Int) : (floatAmount n).natAbs = Binary64.nearestWhole n.natAbs := by
  rw [floatAmount]
  split <;> omega

theorem floatAmount_eq_iff (n : Int) : floatAmount n = n ↔ Binary64.IsShort n.natAbs := by
  rw [← Binary64.nearestWhole_eq_iff, floatAmount]
  split <;> omega

theorem toWhole?_ofInt {n : Int} (h : fitsInt64 n = true) :
    (Binary64.ofInt n).toWhole? =
      if n.natAbs < 2 ^ 63 - 512 then some (floatAmount n) else none := by
  have hbound := natAbs_le_of_fitsInt64 h
  obtain ⟨hwhole, hsign⟩ := Binary64.ofInt_isWhole hbound
  have hrange : Binary64.nearestWhole n.natAbs < Binary64.signBit ↔ n.natAbs < 2 ^ 63 - 512 :=
    Binary64.nearestWhole_lt_iff hbound
  rw [hwhole.toWhole?_eq, hsign, floatAmount]
  simp only [hrange, decide_eq_true_eq]

theorem toNumber?_int (n : Int64) : (Expr.int n).toNumber? = some (.ofInt n.toInt) := rfl

/-! ## No finer unit -/

/-- Whether a number has no whole amount in the first few units that are left. -/
def neverWhole : Nat → IntervalUnit → Binary64 → Bool
  | 0, _, _ => false
  | steps + 1, unit, x =>
    x.toWhole?.isNone &&
      match unit.finer? with
      | none => true
      | some (finer, factor) => neverWhole steps finer (x.mul (.ofInt factor))

theorem wholeAmount_of_neverWhole (driver : String) {steps : Nat} {x : Binary64}
    (h : neverWhole steps unit x = true) :
    ∃ finest y, wholeAmount driver unit x =
      .error (.translation (.fractionalAmount driver finest y)) := by
  fun_induction wholeAmount driver unit x generalizing steps with
  | case1 unit x whole hwhole =>
      cases steps with
      | zero => simp [neverWhole] at h
      | succ steps => simp [neverWhole, hwhole] at h
  | case2 unit x hnone finer factor hfiner ih =>
      cases steps with
      | zero => simp [neverWhole] at h
      | succ steps =>
          simp only [neverWhole, hnone, hfiner, Option.isNone_none, Bool.true_and] at h
          exact ih h
  | case3 unit x hnone hfiner => exact ⟨unit, x, rfl⟩

/-- Finer units only make a number larger that is too large already. -/
theorem neverWhole_top (negative : Bool) (h : unit.IsPlain) :
    neverWhole 5 unit (.ofMagnitude negative (1086 * Binary64.hiddenBit)) = true := by
  cases unit with
  | week => exact absurd rfl h.1
  | quarter => exact absurd rfl h.2
  | _ => cases negative <;> decide +kernel

theorem wholeAmount_ofInt_error (driver : String) {n : Int} (hunit : unit.IsPlain)
    (hfits : fitsInt64 n = true) (hlarge : ¬ n.natAbs < 2 ^ 63 - 512) :
    ∃ finest y, wholeAmount driver unit (.ofInt n) =
      .error (.translation (.fractionalAmount driver finest y)) := by
  rw [Binary64.ofInt_eq_top (Nat.not_lt.mp hlarge) (natAbs_le_of_fitsInt64 hfits)]
  exact wholeAmount_of_neverWhole driver (neverWhole_top _ hunit)

theorem wholeAmount_ofInt (driver : String) {n : Int} (hfits : fitsInt64 n = true)
    (hsmall : n.natAbs < 2 ^ 63 - 512) :
    wholeAmount driver unit (.ofInt n) = .ok (unit, Int64.ofInt (floatAmount n)) := by
  rw [wholeAmount, toWhole?_ofInt hfits, if_pos hsmall]

/-! ## Integers -/

/-- What a driver gets for an integer. -/
inductive NormalizesInt (d : Driver) (unit : IntervalUnit) (n : Int64) :
    Except Error (IntervalUnit × Expr) → Prop
  | exact {m : Int64} : ¬ d.capability .integralIntervals = true → m.toInt = plainAmount unit n →
      NormalizesInt d unit n (.ok (unit.plain.1, .int m))
  | float {m : Int64} : d.capability .integralIntervals = true →
      (plainAmount unit n).natAbs < 2 ^ 63 - 512 → m.toInt = floatAmount (plainAmount unit n) →
      NormalizesInt d unit n (.ok (unit.plain.1, .int m))
  | outOfRange : ¬ fitsInt64 (plainAmount unit n) = true →
      NormalizesInt d unit n (.error (.translation (.amountOutOfRange n)))
  /-- Here an amount that fits is refused as a fraction. -/
  | large {finest : IntervalUnit} {y : Binary64} : d.capability .integralIntervals = true →
      fitsInt64 (plainAmount unit n) = true → ¬ (plainAmount unit n).natAbs < 2 ^ 63 - 512 →
      NormalizesInt d unit n (.error (.translation (.fractionalAmount d.displayName finest y)))

theorem normalizesInt (d : Driver) (unit : IntervalUnit) (n : Int64) :
    NormalizesInt d unit n (normalize d unit (.int n)) := by
  by_cases hfits : fitsInt64 (plainAmount unit n) = true
  · obtain ⟨form, hplain, hform⟩ := plainForm_int (int64?_of_fits hfits)
    by_cases hd : d.capability .integralIntervals = true
    · have hnumber : (form.apply (.int n)).toNumber? = some (.ofInt (plainAmount unit n)) := by
        rw [hform, toNumber?_int, toInt_ofInt_of_fits hfits]
      rw [normalize_of_number hplain hd hnumber]
      by_cases hsmall : (plainAmount unit n).natAbs < 2 ^ 63 - 512
      · rw [wholeAmount_ofInt _ hfits hsmall]
        refine .float hd hsmall (toInt_ofInt_of_fits (fitsInt64_of_natAbs_lt ?_))
        rw [natAbs_floatAmount]
        exact (Binary64.nearestWhole_lt_iff (by omega)).mpr hsmall
      · obtain ⟨finest, y, herror⟩ :=
          wholeAmount_ofInt_error d.displayName unit.isPlain_plain hfits hsmall
        rw [herror]
        exact .large hd hfits hsmall
    · rw [normalize_of_plainForm hplain hd, hform]
      exact .exact hd (toInt_ofInt_of_fits hfits)
  · rw [normalize_of_plainForm_error (plainForm_int_error (int64?_eq_none_iff.mpr hfits))]
    exact .outOfRange hfits

namespace NormalizesInt

variable {n : Int64} {result : Except Error (IntervalUnit × Expr)}

theorem eq_float (h : NormalizesInt d unit n result)
    (hd : d.capability .integralIntervals = true)
    (hsmall : (plainAmount unit n).natAbs < 2 ^ 63 - 512) :
    result = .ok (unit.plain.1, .int (Int64.ofInt (floatAmount (plainAmount unit n)))) := by
  cases h with
  | exact hd' _ => exact absurd hd hd'
  | float _ _ hm => rw [← hm, Int64.ofInt_toInt]
  | outOfRange hfits => exact absurd (fitsInt64_of_natAbs_lt (by omega)) hfits
  | large _ _ hlarge => exact absurd hsmall hlarge

/-- An amount is refused if it does not fit, and some more with integral intervals. -/
theorem exists_error_iff (h : NormalizesInt d unit n result) :
    (∃ error, result = .error error) ↔ ¬ fitsInt64 (plainAmount unit n) = true ∨
      d.capability .integralIntervals = true ∧ ¬ (plainAmount unit n).natAbs < 2 ^ 63 - 512 := by
  cases h with
  | exact hd hm =>
      refine iff_of_false (by simp) ?_
      rintro (hnot | ⟨hd', -⟩)
      · rw [← hm] at hnot
        exact hnot (fitsInt64_toInt _)
      · exact hd hd'
  | float hd hsmall _ =>
      refine iff_of_false (by simp) ?_
      rintro (hnot | ⟨-, hlarge⟩)
      · exact hnot (fitsInt64_of_natAbs_lt (by omega))
      · exact hlarge hsmall
  | outOfRange hfits => exact iff_of_true ⟨_, rfl⟩ (.inl hfits)
  | large hd _ hlarge => exact iff_of_true ⟨_, rfl⟩ (.inr ⟨hd, hlarge⟩)

end NormalizesInt

/-! ## Length -/

/-- The interval stays as long as it was, and only an amount that does not fit is refused. -/
structure KeepsLength (d : Driver) (unit : IntervalUnit) (n : Int64) : Prop where
  span_eq : ∀ {unit' amount}, normalize d unit (.int n) = .ok (unit', amount) →
    ∃ m : Int64, amount = .int m ∧ unit'.span m.toInt = unit.span n.toInt
  refused : ∀ {error}, normalize d unit (.int n) = .error error →
    ¬ fitsInt64 (plainAmount unit n) = true
  unscaled : unit.IsPlain → normalize d unit (.int n) = .ok (unit, .int n)

variable {n : Int64}

theorem keepsLength_of_ok {m : Int64} (hm : m.toInt = plainAmount unit n)
    (h : normalize d unit (.int n) = .ok (unit.plain.1, .int m)) : KeepsLength d unit n := by
  refine ⟨?_, ?_, ?_⟩
  · intro unit' amount hok
    rw [h] at hok
    obtain ⟨rfl, rfl⟩ := Prod.mk.inj (Except.ok.inj hok)
    exact ⟨m, rfl, by rw [hm, plainAmount, IntervalUnit.span_plain]⟩
  · intro error herror
    rw [h] at herror
    exact nomatch herror
  · intro hplain
    rw [plainAmount_of_isPlain hplain] at hm
    rw [h, IntervalUnit.plain_of_isPlain hplain, Int64.toInt_inj.mp hm]

theorem keepsLength_of_error {error : Error} (hfits : ¬ fitsInt64 (plainAmount unit n) = true)
    (h : normalize d unit (.int n) = .error error) : KeepsLength d unit n := by
  refine ⟨?_, fun _ => hfits, ?_⟩
  · intro unit' amount hok
    rw [h] at hok
    exact nomatch hok
  · intro hplain
    rw [plainAmount_of_isPlain hplain] at hfits
    exact absurd (fitsInt64_toInt n) hfits

theorem KeepsLength.isShort (h : KeepsLength d unit n)
    (hd : d.capability .integralIntervals = true) (hfits : fitsInt64 (plainAmount unit n) = true) :
    Binary64.IsShort (plainAmount unit n).natAbs ∧ (plainAmount unit n).natAbs < 2 ^ 63 := by
  have hcases := normalizesInt d unit n
  generalize hresult : normalize d unit (.int n) = result at hcases
  cases hcases with
  | exact hd' _ => exact absurd hd hd'
  | @float m _ hsmall hm =>
      obtain ⟨k, hk, hspan⟩ := h.span_eq hresult
      obtain rfl : m = k := by
        injection hk with hvalue
        injection hvalue
      rw [← unit.span_plain n.toInt] at hspan
      have hexact : m.toInt = plainAmount unit n := IntervalUnit.span_injective _ hspan
      rw [hm] at hexact
      exact ⟨(floatAmount_eq_iff _).mp hexact, by omega⟩
  | outOfRange hfits' => exact absurd hfits hfits'
  | large _ _ _ => exact absurd hfits (h.refused hresult)

theorem keepsLength_of_isShort
    (h : d.capability .integralIntervals = true → fitsInt64 (plainAmount unit n) = true →
      Binary64.IsShort (plainAmount unit n).natAbs ∧ (plainAmount unit n).natAbs < 2 ^ 63) :
    KeepsLength d unit n := by
  have hcases := normalizesInt d unit n
  generalize hresult : normalize d unit (.int n) = result at hcases
  cases hcases with
  | exact _ hm => exact keepsLength_of_ok hm hresult
  | float hd hsmall hm =>
      have hfits := fitsInt64_of_natAbs_lt (n := plainAmount unit n) (by omega)
      rw [(floatAmount_eq_iff _).mpr (h hd hfits).1] at hm
      exact keepsLength_of_ok hm hresult
  | outOfRange hfits => exact keepsLength_of_error hfits hresult
  | large hd hfits hlarge =>
      -- Above 2 ^ 63 - 512 all short numbers are at least 2 ^ 63.
      obtain ⟨hshort, hbound⟩ := h hd hfits
      rw [← Binary64.nearestWhole_eq_iff] at hshort
      rw [← Binary64.nearestWhole_lt_iff (by omega), hshort] at hlarge
      exact absurd hbound hlarge

/-- Every interval keeps its length, apart from the amounts that take more than 53 bits on a driver
with integral intervals. -/
theorem keepsLength_iff (d : Driver) (unit : IntervalUnit) (n : Int64) :
    KeepsLength d unit n ↔
      (d.capability .integralIntervals = true → fitsInt64 (plainAmount unit n) = true →
        Binary64.IsShort (plainAmount unit n).natAbs ∧ (plainAmount unit n).natAbs < 2 ^ 63) := by
  constructor
  · intro h hd hfits
    exact h.isShort hd hfits
  · exact keepsLength_of_isShort

/-- H2 gets one day less than was asked for, and refuses the largest amount as a fraction. -/
theorem h2_loses_a_day :
    normalize ⟨H2.descriptor, [Ansi.descriptor]⟩ .day (.int 9007199254740993) =
        .ok (.day, .int 9007199254740992) ∧
      ¬ KeepsLength ⟨H2.descriptor, [Ansi.descriptor]⟩ .day 9007199254740993 ∧
      ¬ KeepsLength ⟨H2.descriptor, [Ansi.descriptor]⟩ .day Int64.maxValue := by
  have hday := (normalizesInt ⟨H2.descriptor, [Ansi.descriptor]⟩ .day 9007199254740993).eq_float
    rfl (by decide)
  have hamount : floatAmount (plainAmount .day 9007199254740993) = 9007199254740992 := by
    decide +kernel
  rw [hamount] at hday
  refine ⟨hday, fun h => ?_, fun h => ?_⟩
  · have hsame := h.unscaled (by decide)
    rw [hday] at hsame
    exact absurd hsame (by decide)
  · obtain ⟨error, herror⟩ :=
      (normalizesInt ⟨H2.descriptor, [Ansi.descriptor]⟩ .day Int64.maxValue).exists_error_iff.mpr
        (.inr ⟨rfl, by decide⟩)
    exact h.refused herror (by decide)

end Interval

end Sluice
