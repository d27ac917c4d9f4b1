import Sluice.Proofs.Translation.Slots
import Sluice.Registry.Builtin

/-!
# Literal amounts

A number goes to a driver with integral intervals as a whole number, or is refused: integers and
floats do. A decimal is no number here, so it goes to the driver as it is.
-/

namespace Sluice

/-! ## Units -/

namespace IntervalUnit

/-- The unit in which an amount is written, and how many of it make one. -/
def plain : IntervalUnit → IntervalUnit × Nat
  | quarter => (month, 3)
  | week => (day, 7)
  | unit => (unit, 1)

/-- A unit in which amounts are written. -/
def IsPlain (unit : IntervalUnit) : Prop := unit ≠ week ∧ unit ≠ quarter

instance (unit : IntervalUnit) : Decidable unit.IsPlain := inferInstanceAs (Decidable (_ ∧ _))

theorem isPlain_plain (unit : IntervalUnit) : unit.plain.1.IsPlain := by
  cases unit <;> decide

theorem plain_of_isPlain {unit : IntervalUnit} (h : unit.IsPlain) : unit.plain = (unit, 1) := by
  cases unit with
  | week => exact absurd rfl h.1
  | quarter => exact absurd rfl h.2
  | _ => rfl

theorem isPlain_of_finer? {unit finer : IntervalUnit} {factor : Nat}
    (h : unit.finer? = some (finer, factor)) : finer.IsPlain := by
  cases unit <;> simp only [finer?, Option.some.injEq, Prod.mk.injEq, reduceCtorEq] at h <;>
    exact h.1 ▸ by decide

end IntervalUnit

namespace Interval

variable {d : Driver} {unit unit' : IntervalUnit} {amount : Expr} {form : AmountForm}

/-! ## Plain units -/

theorem plainForm_eq (unit : IntervalUnit) (amount : Expr) :
    plainForm unit amount =
      if unit.IsPlain then .ok (unit, .same)
      else (scale amount unit.plain.2).map fun form => (unit.plain.1, form) := by
  cases unit <;> rfl

theorem unit_of_plainForm (h : plainForm unit amount = .ok (unit', form)) :
    unit' = unit.plain.1 := by
  rw [plainForm_eq] at h
  split at h
  · rename_i hplain
    obtain ⟨rfl, -⟩ := Prod.mk.inj (Except.ok.inj h)
    rw [IntervalUnit.plain_of_isPlain hplain]
  · obtain ⟨_, -, hpair⟩ := exists_of_map_eq_ok h
    exact (Prod.mk.inj hpair).1.symm

/-- Without integral intervals the plain unit is the last word. -/
theorem normalize_of_plainForm (hplain : plainForm unit amount = .ok (unit', form))
    (hd : ¬ d.capability .integralIntervals = true) :
    normalize d unit amount = .ok (unit', form.apply amount) := by
  have hform : normalForm d unit amount = .ok (unit', form) := by
    rw [normalForm, hplain]
    exact if_neg hd
  rw [normalize, hform]
  rfl

theorem normalize_of_plainForm_error {error : Error} (h : plainForm unit amount = .error error) :
    normalize d unit amount = .error error := by
  rw [normalize, normalForm, h]
  rfl

/-- With integral intervals a number in its plain unit goes on to finer units. -/
theorem normalize_of_number {x : Binary64} (hplain : plainForm unit amount = .ok (unit', form))
    (hd : d.capability .integralIntervals = true) (hx : (form.apply amount).toNumber? = some x) :
    normalize d unit amount =
      (wholeAmount d.displayName unit' x).map fun (finer, n) => (finer, .int n) := by
  have hform : normalForm d unit amount =
      (wholeAmount d.displayName unit' x).map fun (finer, n) => (finer, .literal (.int n)) := by
    rw [normalForm, hplain]
    change (if _ then _ else _) = _
    rw [if_pos hd, integralForm, hx]
  rw [normalize, hform]
  cases wholeAmount d.displayName unit' x <;> rfl

/-! ## Numbers -/

theorem isPlain_of_wholeAmount {driver : String} {x : Binary64} {n : Int64}
    (hunit : unit.IsPlain) (h : wholeAmount driver unit x = .ok (unit', n)) : unit'.IsPlain := by
  fun_induction wholeAmount driver unit x with
  | case1 unit x whole hwhole =>
      obtain ⟨rfl, -⟩ := Prod.mk.inj (Except.ok.inj h)
      exact hunit
  | case2 unit x _ finer factor hfiner ih => exact ih (IntervalUnit.isPlain_of_finer? hfiner) h
  | case3 => cases h

/-- A number stays one in the plain unit. -/
theorem exists_number_of_plainForm {v : Value} {x : Binary64} (hv : v.toFloat? = some x)
    (h : plainForm unit (.literal v) = .ok (unit', form)) :
    ∃ y, (form.apply (.literal v)).toNumber? = some y := by
  rw [plainForm_eq] at h
  split at h
  · obtain ⟨-, rfl⟩ := Prod.mk.inj (Except.ok.inj h)
    exact ⟨x, hv⟩
  · obtain ⟨scaled, hscaled, hpair⟩ := exists_of_map_eq_ok h
    obtain ⟨-, rfl⟩ := Prod.mk.inj hpair
    cases v with
    | int n =>
        rw [scale.eq_def] at hscaled
        dsimp only at hscaled
        split at hscaled
        · obtain rfl := Except.ok.inj hscaled
          exact ⟨_, rfl⟩
        · cases hscaled
    | float y =>
        obtain rfl := Except.ok.inj hscaled
        exact ⟨_, rfl⟩
    | _ => cases hv

/-! ## Whole or refused -/

/-- A driver gets a whole number in a plain unit, or the translation fails. -/
inductive WholeOrRefused : Except Error (IntervalUnit × Expr) → Prop
  | whole {unit : IntervalUnit} (n : Int64) : unit.IsPlain → WholeOrRefused (.ok (unit, .int n))
  | refused (issue : TranslationIssue) : WholeOrRefused (.error (.translation issue))

theorem normalize_failsByAmount (d : Driver) (unit : IntervalUnit) (amount : Expr) :
    FailsByAmount (normalize d unit amount) :=
  (normalForm_failsByAmount d unit amount).map _

theorem wholeOrRefused_of_number {v : Value} {x : Binary64}
    (hd : d.capability .integralIntervals = true) (hv : v.toFloat? = some x) :
    WholeOrRefused (normalize d unit (.literal v)) := by
  cases hnormal : normalize d unit (.literal v) with
  | error error =>
      obtain ⟨issue, rfl, -⟩ := normalize_failsByAmount d unit _ error hnormal
      exact .refused issue
  | ok result =>
      cases hplain : plainForm unit (.literal v) with
      | error error =>
          rw [normalize_of_plainForm_error hplain] at hnormal
          cases hnormal
      | ok plain =>
          obtain ⟨y, hy⟩ := exists_number_of_plainForm hv hplain
          rw [normalize_of_number hplain hd hy] at hnormal
          obtain ⟨⟨finer, n⟩, hwhole, rfl⟩ := exists_of_map_eq_ok hnormal
          refine .whole n (isPlain_of_wholeAmount ?_ hwhole)
          rw [unit_of_plainForm hplain]
          exact unit.isPlain_plain

/-! ## Decimals -/

/-- What becomes of a decimal on a driver with integral intervals: it is multiplied when the
statement runs, or not at all. -/
def decimalForm : IntervalUnit → IntervalUnit × AmountForm
  | .quarter => (.month, .times 3)
  | .week => (.day, .times 7)
  | .second => (.millisecond, .times 1000)
  | unit => (unit, .same)

theorem isPlain_decimalForm (unit : IntervalUnit) : (decimalForm unit).1.IsPlain := by
  cases unit <;> decide

theorem normalize_decimal (hd : d.capability .integralIntervals = true) (unit : IntervalUnit)
    (digits : String) :
    normalize d unit (.literal (.decimal digits)) =
      .ok ((decimalForm unit).1, (decimalForm unit).2.apply (.literal (.decimal digits))) := by
  have hform : normalForm d unit (.literal (.decimal digits)) = .ok (decimalForm unit) := by
    rw [normalForm]
    cases unit <;> exact if_pos hd
  rw [normalize, hform]
  rfl

theorem not_wholeOrRefused_decimal (unit : IntervalUnit) (form : AmountForm) (digits : String)
    (hform : ∀ value, form ≠ .literal value) :
    ¬ WholeOrRefused (.ok (unit, form.apply (.literal (.decimal digits)))) := by
  intro h
  cases form with
  | same => exact nomatch h
  | literal value => exact hform value rfl
  | times factor => exact nomatch h

/-! ## Numeric literals -/

/-- What a driver with integral intervals gets for a literal. -/
structure Delivers (d : Driver) (unit : IntervalUnit) (v : Value) : Prop where
  plain : ∀ {unit' amount}, normalize d unit (.literal v) = .ok (unit', amount) → unit'.IsPlain
  /-- Nothing but a decimal gets past the rule. -/
  whole_iff : WholeOrRefused (normalize d unit (.literal v)) ↔ ∀ digits, v ≠ .decimal digits
  decimal : ∀ digits, v = .decimal digits → normalize d unit (.literal v) =
    .ok ((decimalForm unit).1, (decimalForm unit).2.apply (.literal v))

theorem delivers_number {v : Value} {x : Binary64} (hd : d.capability .integralIntervals = true)
    (hv : v.toFloat? = some x) : Delivers d unit v := by
  have hwhole : WholeOrRefused (normalize d unit (.literal v)) := wholeOrRefused_of_number hd hv
  have hnot : ∀ digits, v ≠ .decimal digits := by
    rintro digits rfl
    exact nomatch hv
  refine ⟨?_, iff_of_true hwhole hnot, fun digits h => absurd h (hnot digits)⟩
  intro unit' amount h
  rw [h] at hwhole
  cases hwhole with
  | whole n hplain => exact hplain

theorem delivers_decimal (hd : d.capability .integralIntervals = true) (digits : String) :
    Delivers d unit (.decimal digits) := by
  have hdecimal := normalize_decimal hd unit digits
  refine ⟨?_, ?_, ?_⟩
  · intro unit' amount h
    rw [hdecimal] at h
    obtain ⟨rfl, -⟩ := Prod.mk.inj (Except.ok.inj h)
    exact isPlain_decimalForm unit
  · refine iff_of_false ?_ fun h => h digits rfl
    rw [hdecimal]
    refine not_wholeOrRefused_decimal _ _ _ ?_
    intro value
    cases unit <;> exact nofun
  · intro _ _
    exact hdecimal

/-- A driver with integral intervals gets a number as a whole amount of a plain unit, or it gets
none because the number has a fraction or too many digits. Only decimals slip through. -/
theorem delivers_of_isNumeric {v : Value} (hd : d.capability .integralIntervals = true)
    (hv : v.semanticType.isNumeric = true) : Delivers d unit v := by
  cases v with
  | int n => exact delivers_number hd rfl
  | float x => exact delivers_number hd rfl
  | decimal digits => exact delivers_decimal hd digits
  | _ => exact nomatch hv

theorem h2_delivers_one_and_a_half_seconds :
    (⟨H2.descriptor, [Ansi.descriptor]⟩ : Driver).capability .integralIntervals = true ∧
      (Value.float (.ofRatio false 3 2)).semanticType.isNumeric = true ∧
      Delivers ⟨H2.descriptor, [Ansi.descriptor]⟩ .second (.float (.ofRatio false 3 2)) :=
  ⟨rfl, rfl, delivers_of_isNumeric rfl rfl⟩

/-- A day and a half as a decimal reaches H2, which would cut it off. -/
theorem h2_receives_fractional_decimal :
    (⟨H2.descriptor, [Ansi.descriptor]⟩ : Driver).capability .integralIntervals = true ∧
      normalize ⟨H2.descriptor, [Ansi.descriptor]⟩ .day (.literal (.decimal "1.5")) =
        .ok (.day, .literal (.decimal "1.5")) ∧
      ¬ WholeOrRefused
        (normalize ⟨H2.descriptor, [Ansi.descriptor]⟩ .day (.literal (.decimal "1.5"))) := by
  have hnormal : normalize ⟨H2.descriptor, [Ansi.descriptor]⟩ .day (.literal (.decimal "1.5")) =
      .ok (.day, .literal (.decimal "1.5")) := rfl
  refine ⟨rfl, hnormal, ?_⟩
  rw [hnormal]
  exact nofun

end Interval

end Sluice
