import Mathlib.Data.Option.Basic
import Sluice.Registry

/-!
# Lookups along a chain

What a driver inherits comes from the nearest member of its chain that declares it; where nobody
does, a default stands in. Every lookup has exactly one such answer.
-/

namespace Sluice

variable {α : Type}

namespace Driver

/-- On the way from a driver to the root, `a` is the first that is declared. -/
def Declares (d : Driver) (declared : Descriptor → Option α) (a : α) : Prop :=
  ∃ nearer e farther, d.chain = nearer ++ e :: farther ∧ declared e = some a ∧
    ∀ x ∈ nearer, declared x = none

/-- The chain declares an answer, or declares nothing and the answer is the default. -/
inductive Resolves (d : Driver) (declared : Descriptor → Option α) (standIn : α) : α → Prop where
  | nearest {a} : d.Declares declared a → Resolves d declared standIn a
  | standIn : (∀ e ∈ d.chain, declared e = none) → Resolves d declared standIn standIn

variable {d : Driver} {declared : Descriptor → Option α} {standIn a : α}

theorem declares_iff : d.Declares declared a ↔ d.nearest declared = some a :=
  List.findSome?_eq_some_iff.symm

theorem nearest_eq_none : d.nearest declared = none ↔ ∀ e ∈ d.chain, declared e = none :=
  List.findSome?_eq_none_iff

/-- A lookup finds what the chain resolves to, and nothing else. -/
theorem resolves_iff : d.Resolves declared standIn a ↔ (d.nearest declared).getD standIn = a := by
  constructor
  · intro h
    cases h with
    | nearest h => rw [declares_iff.mp h, Option.getD_some]
    | standIn h => rw [nearest_eq_none.mpr h, Option.getD_none]
  · intro h
    cases hnearest : d.nearest declared with
    | none =>
        rw [hnearest, Option.getD_none] at h
        exact h ▸ .standIn (nearest_eq_none.mp hnearest)
    | some b =>
        rw [hnearest, Option.getD_some] at h
        exact h ▸ .nearest (declares_iff.mpr hnearest)

/-- Lookups of related declarations find related answers. -/
theorem nearest_rel {R : α → α → Prop} {f g : Descriptor → Option α}
    (h : ∀ e, Option.Rel R (f e) (g e)) (d : Driver) :
    Option.Rel R (d.nearest f) (d.nearest g) := by
  rw [nearest, nearest]
  induction d.chain with
  | nil => exact .none
  | cons e chain ih =>
      have hhere := h e
      rw [List.findSome?_cons, List.findSome?_cons]
      generalize f e = x at hhere ⊢
      generalize g e = y at hhere ⊢
      cases hhere with
      | some hrel => exact .some hrel
      | none => exact ih

/-- A driver inherits from itself and from its ancestors. -/
theorem inheritsFrom_iff {id : String} : d.inheritsFrom id = true ↔ ∃ e ∈ d.chain, e.id = id := by
  simp only [inheritsFrom, List.any_eq_true, beq_iff_eq]

end Driver

namespace Registry

variable {r : Registry} {d : Driver} {id : String}

theorem get?_eq_none : r.get? id = none ↔ ∀ d ∈ r.drivers, d.id ≠ id := by
  simp only [get?, List.find?_eq_none, beq_iff_eq, ne_eq]

theorem resolve_of_get? (h : r.get? id = some d) : r.resolve id = .ok d := by
  rw [resolve, h]

theorem resolve_eq_error {e : Error} :
    r.resolve id = .error e ↔ (∀ d ∈ r.drivers, d.id ≠ id) ∧ e = .unknownDriver id := by
  rw [← get?_eq_none, resolve]
  cases r.get? id with
  | none => simp [eq_comm]
  | some d => simp

end Registry

end Sluice
