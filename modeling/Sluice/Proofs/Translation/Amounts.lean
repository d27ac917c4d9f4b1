import Sluice.Interval
import Sluice.Proofs.Outcome

/-!
# Amounts that become other literals

Amounts are put in other units at once where they are literal numbers, and only there. A number that
is not finite stays so on the way, or fails.
-/

namespace Sluice

/-! ## Finite numbers -/

theorem Binary64.isFinite_of_mul {x y : Binary64} (h : (x.mul y).isFinite = true) :
    x.isFinite = true := by
  have hnan : nan.isFinite = false := by decide +kernel
  have hinfinity : ∀ negative, (infinity negative).isFinite = false := by decide +kernel
  rw [mul] at h
  split at h
  · rw [hnan] at h
    exact nomatch h
  · split at h
    · next hboth => exact (Bool.and_eq_true_iff.mp hboth).1
    · split at h
      · rw [hnan] at h
        exact nomatch h
      · rw [hinfinity] at h
        exact nomatch h

theorem Binary64.isFinite_of_toWhole? {x : Binary64} {n : Int} (h : x.toWhole? = some n) :
    x.isFinite = true := by
  rw [toWhole?] at h
  split at h
  · next hall => exact (Bool.and_eq_true_iff.mp (Bool.and_eq_true_iff.mp hall).1).1
  · exact nomatch h

/-! ## Amounts -/

/-- A literal amount and the number that a driver gets for it, which is finite only if the amount
is. -/
inductive Rescaled : Expr → Value → Prop where
  | int (n m : Int64) : Rescaled (.int n) (.int m)
  | float {x y : Binary64} : (y.isFinite = true → x.isFinite = true) →
      Rescaled (.literal (.float x)) (.float y)
  | whole {x : Binary64} (n : Int64) : x.isFinite = true → Rescaled (.literal (.float x)) (.int n)

namespace Interval

variable {d : Driver} {unit unit' : IntervalUnit} {amount : Expr} {value : Value}

theorem scale_rescaled {factor : Nat} (h : scale amount factor = .ok (.literal value)) :
    Rescaled amount value := by
  rw [scale.eq_def] at h
  split at h
  · dsimp only at h
    split at h
    · obtain rfl := AmountForm.literal.inj (Except.ok.inj h)
      exact .int _ _
    · exact nomatch h
  · obtain rfl := AmountForm.literal.inj (Except.ok.inj h)
    exact .float Binary64.isFinite_of_mul
  · exact nomatch h

theorem plainForm_rescaled (h : plainForm unit amount = .ok (unit', .literal value)) :
    Rescaled amount value := by
  have hscale : ∀ (factor : Nat) (coarse : IntervalUnit),
      (scale amount factor).map (fun form => (coarse, form)) = .ok (unit', .literal value) →
        Rescaled amount value := by
    intro factor coarse hmap
    obtain ⟨form, hform, hpair⟩ := exists_of_map_eq_ok hmap
    obtain ⟨-, rfl⟩ := Prod.mk.inj hpair
    exact scale_rescaled hform
  cases unit with
  | quarter => exact hscale 3 _ h
  | week => exact hscale 7 _ h
  | millisecond | second | minute | hour | day | month | year => exact nomatch h

theorem isFinite_of_wholeAmount {driver : String} {x : Binary64} {n : IntervalUnit × Int64}
    (h : wholeAmount driver unit x = .ok n) : x.isFinite = true := by
  fun_induction wholeAmount driver unit x with
  | case1 unit x whole hwhole => exact Binary64.isFinite_of_toWhole? hwhole
  | case2 unit x _ _ _ _ ih => exact Binary64.isFinite_of_mul (ih h)
  | case3 => exact nomatch h

theorem rescaled_of_toNumber? {x : Binary64} (h : amount.toNumber? = some x)
    (hx : x.isFinite = true) (n : Int64) : Rescaled amount (.int n) := by
  cases amount with
  | literal value =>
      cases value with
      | int m => exact .int m n
      | float y =>
          obtain rfl := Option.some.inj h
          exact .whole n hx
      | _ => exact nomatch h
  | _ => exact nomatch h

theorem integralForm_rescaled {driver : String} {form : AmountForm}
    (hform : ∀ value, form = .literal value → Rescaled amount value)
    (h : integralForm driver amount unit form = .ok (unit', .literal value)) :
    Rescaled amount value := by
  rw [integralForm] at h
  split at h
  · next x hnumber =>
      obtain ⟨⟨fine, n⟩, hwhole, hpair⟩ := exists_of_map_eq_ok h
      obtain ⟨-, hvalue⟩ := Prod.mk.inj hpair
      obtain rfl := AmountForm.literal.inj hvalue
      have hx := isFinite_of_wholeAmount hwhole
      cases form with
      | same => exact rescaled_of_toNumber? hnumber hx n
      | literal v =>
          cases hform v rfl with
          | int m k => exact .int m n
          | whole k hfinite => exact .whole n hfinite
          | float hfinite =>
              obtain rfl := Option.some.inj hnumber
              exact .whole n (hfinite hx)
      | times factor => exact nomatch hnumber
  · split at h
    · obtain ⟨scaled, hscaled, hpair⟩ := exists_of_map_eq_ok h
      obtain ⟨-, rfl⟩ := Prod.mk.inj hpair
      exact scale_rescaled hscaled
    · exact hform value (Prod.mk.inj (Except.ok.inj h)).2

/-- A driver gets another literal only in place of a number. -/
theorem normalForm_rescaled (h : normalForm d unit amount = .ok (unit', .literal value)) :
    Rescaled amount value := by
  obtain ⟨⟨plain, form⟩, hplain, hrest⟩ := exists_of_bind_eq_ok h
  have hform : ∀ value, form = .literal value → Rescaled amount value := by
    rintro value rfl
    exact plainForm_rescaled hplain
  dsimp only at hrest
  split at hrest
  · exact integralForm_rescaled hform hrest
  · exact hform value (Prod.mk.inj (Except.ok.inj hrest)).2

end Interval

end Sluice
