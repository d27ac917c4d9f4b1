import Sluice.Proofs.Translation.Inert
import Sluice.Translation

/-!
# Emissions

An emission lists what a translation step writes from left to right: texts and values, up to the
end or to a failure. Spelling an emission writes its texts and puts its values in that order, so a
step that spells an emission binds its values in the order of their placeholders.
-/

namespace Sluice

open Text Scan

/-- What a step writes from left to right. -/
inductive Emission where
  | done
  | fail (error : Error)
  | text (s : String) (rest : Emission)
  | value (v : Value) (rest : Emission)

namespace Emission

/-- One emission after another, unless the first fails. -/
def append : Emission → Emission → Emission
  | done, e => e
  | fail error, _ => fail error
  | text s rest, e => text s (rest.append e)
  | value v rest, e => value v (rest.append e)

/-- The step that writes an emission. -/
def spell (put : Value → TranslateM String) : Emission → TranslateM String
  | done => return ""
  | fail error => throw error
  | text s rest => do return s ++ (← rest.spell put)
  | value v rest => do
    let mark ← put v
    return mark ++ (← rest.spell put)

/-- The values up to the end or a failure. -/
def values : Emission → List Value
  | done | fail _ => []
  | text _ rest => rest.values
  | value v rest => v :: rest.values

/-- The failure. -/
def error? : Emission → Option Error
  | done => none
  | fail error => some error
  | text _ rest | value _ rest => rest.error?

/-- The text with `mark` for every value. The mark depends on the value and on its number, which is
one more than the `bound` values before it. -/
def render (mark : Nat → Value → String) (bound : Nat) : Emission → String
  | done | fail _ => ""
  | text s rest => s ++ rest.render mark bound
  | value v rest => mark (bound + 1) v ++ rest.render mark (bound + 1)

/-! ## Spelling -/

theorem spell_append (put : Value → TranslateM String) (e e' : Emission) :
    (e.append e').spell put = do
      let before ← e.spell put
      let after ← e'.spell put
      return before ++ after := by
  induction e with
  | done => simp only [append, spell, pure_bind, String.empty_append, bind_pure]
  | fail error => rfl
  | text s rest ih => simp only [append, spell, ih, bind_assoc, pure_bind, String.append_assoc]
  | value v rest ih => simp only [append, spell, ih, bind_assoc, pure_bind, String.append_assoc]

theorem values_append {e : Emission} (h : e.error? = none) (e' : Emission) :
    (e.append e').values = e.values ++ e'.values := by
  induction e with
  | done => rfl
  | fail error => exact nomatch h
  | text s rest ih => exact ih h
  | value v rest ih => exact congrArg (List.cons v) (ih h)

theorem error?_append (e e' : Emission) :
    (e.append e').error? = e.error?.or e'.error? := by
  induction e with
  | done => rfl
  | fail error => rfl
  | text s rest ih => exact ih
  | value v rest ih => exact ih

/-- The result of an emission, given its text. -/
def result (e : Emission) (text : String) : Except Error String :=
  match e.error? with
  | none => .ok text
  | some error => .error error

theorem result_eq_ok {e : Emission} {text text' : String} (h : e.result text = .ok text') :
    e.error? = none ∧ text = text' := by
  rw [result] at h
  split at h
  · rename_i herror
    exact ⟨herror, Except.ok.inj h⟩
  · exact nomatch h

end Emission

/-! ## Running a step -/

namespace TranslateM

variable {α β : Type} {step : TranslateM α} {bound bound' : List Value}

theorem after_pure (a : α) (bound : List Value) :
    (pure a : TranslateM α).after bound = (.ok a, bound) := rfl

theorem after_bind_ok {a : α} (h : step.after bound = (.ok a, bound')) (f : α → TranslateM β) :
    (step >>= f).after bound = (f a).after bound' := by
  change step bound = (.ok a, bound') at h
  change ExceptT.bindCont f (step bound).1 (step bound).2 = _
  rw [h]
  rfl

theorem after_bind_error {error : Error} (h : step.after bound = (.error error, bound'))
    (f : α → TranslateM β) : (step >>= f).after bound = (.error error, bound') := by
  change step bound = (.error error, bound') at h
  change ExceptT.bindCont f (step bound).1 (step bound).2 = _
  rw [h]
  rfl

end TranslateM

namespace Emission

open TranslateM

/-- What stands before an emission goes into its text, if it has one. -/
theorem after_prepend {step : TranslateM String} {bound bound' : List Value} {e : Emission}
    {text : String} (h : step.after bound = (e.result text, bound')) (s : String) :
    (do return s ++ (← step) : TranslateM String).after bound =
      (e.result (s ++ text), bound') := by
  cases herror : e.error? with
  | none =>
      simp only [result, herror] at h ⊢
      rw [after_bind_ok h, after_pure]
  | some error =>
      simp only [result, herror] at h ⊢
      rw [after_bind_error h]

/-- If putting a value binds it and writes its mark, an emission binds its values in order. -/
theorem after_spell_bind {put : Value → TranslateM String} {mark : Nat → Value → String}
    (hput : ∀ bound v, (put v).after bound = (.ok (mark (bound.length + 1) v), bound ++ [v]))
    (e : Emission) (bound : List Value) :
    (e.spell put).after bound =
      (e.result (e.render mark bound.length), bound ++ e.values) := by
  induction e generalizing bound with
  | done =>
      rw [values, List.append_nil]
      rfl
  | fail error =>
      rw [values, List.append_nil]
      rfl
  | text s rest ih => exact after_prepend (ih bound) s
  | value v rest ih =>
      have hrest := ih (bound ++ [v])
      rw [List.length_append, List.length_singleton, List.append_assoc] at hrest
      rw [spell, after_bind_ok (hput bound v)]
      exact after_prepend hrest _

/-- If putting a value only writes its mark, an emission binds nothing. -/
theorem after_spell_print (print : Value → String) (e : Emission) (bound : List Value) (n : Nat) :
    (e.spell fun v => return print v).after bound =
      (e.result (e.render (fun _ => print) n), bound) := by
  induction e generalizing n with
  | done => rfl
  | fail error => rfl
  | text s rest ih => exact after_prepend (ih n) s
  | value v rest ih =>
      rw [spell, after_bind_ok (after_pure (print v) bound)]
      exact after_prepend (ih (n + 1)) _

end Emission

end Sluice
