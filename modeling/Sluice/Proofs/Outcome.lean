import Mathlib.Data.List.Forall2

/-!
# Steps that can fail

What a successful composition of steps says about its parts.
-/

namespace Sluice

variable {ε α β : Type}

theorem exists_of_bind_eq_ok {x : Except ε α} {f : α → Except ε β} {b : β}
    (h : x >>= f = .ok b) : ∃ a, x = .ok a ∧ f a = .ok b := by
  cases x with
  | error error => exact nomatch h
  | ok a => exact ⟨a, rfl, h⟩

theorem exists_of_map_eq_ok {x : Except ε α} {f : α → β} {b : β} (h : x.map f = .ok b) :
    ∃ a, x = .ok a ∧ f a = b := by
  cases x with
  | error error => exact nomatch h
  | ok a => exact ⟨a, rfl, Except.ok.inj h⟩

/-- What every step of a fold preserves holds at its end. -/
theorem foldlM_preserves (P : β → Prop) {f : β → α → Except ε β}
    (hstep : ∀ b a b', P b → f b a = .ok b' → P b') {l : List α} {b b' : β} (hb : P b)
    (h : l.foldlM f b = .ok b') : P b' := by
  induction l generalizing b with
  | nil =>
      obtain rfl := Except.ok.inj h
      exact hb
  | cons a l ih =>
      rw [List.foldlM_cons] at h
      obtain ⟨b₁, hfirst, hrest⟩ := exists_of_bind_eq_ok h
      exact ih (hstep b a b₁ hb hfirst) hrest

/-- A fold fails at the first step that fails, after a fold that succeeds. -/
theorem foldlM_eq_error_iff {f : β → α → Except ε β} {l : List α} {b : β} {error : ε} :
    l.foldlM f b = .error error ↔
      ∃ before a after b', l = before ++ a :: after ∧ before.foldlM f b = .ok b' ∧
        f b' a = .error error := by
  constructor
  · intro h
    induction l generalizing b with
    | nil => exact nomatch h
    | cons a l ih =>
        rw [List.foldlM_cons] at h
        cases hfirst : f b a with
        | error error' =>
            rw [hfirst] at h
            obtain rfl := Except.error.inj h
            exact ⟨[], a, l, b, rfl, rfl, hfirst⟩
        | ok b₁ =>
            rw [hfirst] at h
            obtain ⟨before, x, after, b', rfl, hbefore, hx⟩ := ih h
            refine ⟨a :: before, x, after, b', rfl, ?_, hx⟩
            rw [List.foldlM_cons, hfirst]
            exact hbefore
  · rintro ⟨before, a, after, b', rfl, hbefore, ha⟩
    rw [List.foldlM_append, hbefore]
    change (a :: after).foldlM f b' = .error error
    rw [List.foldlM_cons, ha]
    rfl

/-- A traversal succeeds with the results of the single steps. -/
theorem mapM_eq_some_iff {f : α → Option β} {l : List α} {l' : List β} :
    l.mapM f = some l' ↔ List.Forall₂ (fun a b => f a = some b) l l' := by
  induction l generalizing l' with
  | nil => simp [List.forall₂_nil_left_iff, eq_comm]
  | cons a l ih =>
      simp only [List.mapM_cons, Option.bind_eq_bind, Option.bind_eq_some_iff,
        List.forall₂_cons_left_iff, ih]
      constructor
      · rintro ⟨b, hb, bs, hbs, heq⟩
        obtain rfl := Option.some.inj heq
        exact ⟨b, bs, hb, hbs, rfl⟩
      · rintro ⟨b, bs, hb, hbs, rfl⟩
        exact ⟨b, hb, bs, hbs, rfl⟩

/-! ## The error of an outcome -/

/-- The error of a step that failed. -/
def failureOf : Except ε α → Option ε
  | .ok _ => none
  | .error error => some error

theorem failureOf_eq_some {x : Except ε α} {error : ε} :
    failureOf x = some error ↔ x = .error error := by
  cases x <;> simp [failureOf]

theorem failureOf_eq_none {x : Except ε α} : failureOf x = none ↔ ∃ a, x = .ok a := by
  cases x <;> simp [failureOf]

end Sluice
