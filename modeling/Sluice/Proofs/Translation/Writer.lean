import Sluice.Proofs.Translation.Tidy

/-!
# Writers

A writer is a step of a translation, as a function of what stands for a value. Writers put together
from left to right spell one emission after the other.
-/

namespace Sluice

open Text Scan

/-- A step, given how values are put. -/
abbrev Writer := (Value → TranslateM String) → TranslateM String

/-- A writer spells a tidy emission, however values are put. Unless it fails, it puts the values
`vs`, in an order of its own and any of them more than once. -/
structure Spells (w : Writer) (vs : List Value) (e : Emission) : Prop where
  tidy : e.Tidy
  values : e.error? = none → ∀ v, v ∈ e.values ↔ v ∈ vs
  spell : ∀ put, w put = e.spell put

/-- A writer spells an emission of `vs`. -/
def Emits (vs : List Value) (w : Writer) : Prop := ∃ e, Spells w vs e

/-- A writer spells an emission of `vs` that can stand behind a placeholder. -/
def EmitsApart (vs : List Value) (w : Writer) : Prop := ∃ e, Spells w vs e ∧ e.StartsApart

/-- A text that can stand behind a placeholder and before anything. -/
structure Joint (s : String) : Prop where
  inert : Inert s.toList
  apart : ∃ c ∈ s.toList.head?, isApart c = true

theorem joint_of_check {s : String}
    (h : (isInertIn none s.toList && s.toList.head?.any isApart) = true) : Joint s := by
  obtain ⟨hinert, hapart⟩ := Bool.and_eq_true_iff.mp h
  refine ⟨inert_of_check hinert, ?_⟩
  cases hs : s.toList.head? with
  | none =>
      rw [hs] at hapart
      exact nomatch hapart
  | some c =>
      rw [hs] at hapart
      exact ⟨c, rfl, hapart⟩

theorem joint_close : Joint ")" := joint_of_check (by decide)

theorem joint_comma : Joint ", " := joint_of_check (by decide)

theorem Joint.append {s t : String} (hs : Joint s) (ht : Inert t.toList) : Joint (s ++ t) := by
  obtain ⟨c, hc, happart⟩ := hs.apart
  refine ⟨?_, c, ?_, happart⟩
  · rw [String.toList_append]
    exact hs.inert.append ht
  · rw [String.toList_append, List.head?_append, hc]
    rfl

section

variable {vs ws : List Value} {x y : Writer} {s : String}

theorem EmitsApart.emits (h : EmitsApart vs x) : Emits vs x := by
  obtain ⟨e, hspells, -⟩ := h
  exact ⟨e, hspells⟩

theorem Spells.of_eq {e : Emission} (h : Spells x vs e) (heq : ∀ put, y put = x put) :
    Spells y vs e :=
  ⟨h.tidy, h.values, fun put => (heq put).trans (h.spell put)⟩

theorem Emits.of_eq (h : Emits vs x) (heq : ∀ put, y put = x put) : Emits vs y := by
  obtain ⟨e, hspells⟩ := h
  exact ⟨e, hspells.of_eq heq⟩

theorem EmitsApart.of_eq (h : EmitsApart vs x) (heq : ∀ put, y put = x put) : EmitsApart vs y := by
  obtain ⟨e, hspells, happart⟩ := h
  exact ⟨e, hspells.of_eq heq, happart⟩

theorem Emits.congr (h : Emits vs x) (hmem : ∀ v, v ∈ vs ↔ v ∈ ws) : Emits ws x := by
  obtain ⟨e, htidy, hvalues, hspell⟩ := h
  exact ⟨e, htidy, fun herror v => (hvalues herror v).trans (hmem v), hspell⟩

/-! ## Pieces -/

theorem emitsApart_nothing : EmitsApart [] fun _ => return "" :=
  ⟨.done, ⟨.done, fun _ _ => Iff.rfl, fun _ => rfl⟩, trivial⟩

theorem emits_text (h : Inert s.toList) : Emits [] fun _ => return s := by
  refine ⟨.text s .done, .text h .done, fun _ _ => Iff.rfl, fun put => ?_⟩
  simp only [Emission.spell, pure_bind, String.append_empty]

theorem emits_throw (error : Error) (vs : List Value) : Emits vs fun _ => throw error :=
  ⟨.fail error, .fail, nofun, fun _ => rfl⟩

theorem emits_value (v : Value) : Emits [v] fun put => put v := by
  refine ⟨.value v .done, .value trivial .done, fun _ _ => Iff.rfl, fun put => ?_⟩
  simp only [Emission.spell, pure_bind, String.append_empty, bind_pure]

/-! ## From left to right -/

theorem spells_prepend {e : Emission} (hs : Inert s.toList) (h : Spells x vs e) :
    Spells (fun put => do return s ++ (← x put)) vs (.text s e) := by
  refine ⟨.text hs h.tidy, h.values, fun put => ?_⟩
  rw [Emission.spell, ← h.spell]

theorem Emits.prepend (hs : Inert s.toList) (h : Emits vs x) :
    Emits vs fun put => do return s ++ (← x put) := by
  obtain ⟨e, hspells⟩ := h
  exact ⟨.text s e, spells_prepend hs hspells⟩

theorem Emits.prependApart (hs : Joint s) (h : Emits vs x) :
    EmitsApart vs fun put => do return s ++ (← x put) := by
  obtain ⟨e, hspells⟩ := h
  exact ⟨.text s e, spells_prepend hs.inert hspells, hs.apart⟩

/-- The values of two writers are put one after the other, if both succeed. -/
theorem spells_append {e e' : Emission} (h : Spells x vs e) (h' : Spells y ws e')
    (happart : e'.StartsApart) :
    Spells (fun put => do
      let before ← x put
      let after ← y put
      return before ++ after) (vs ++ ws) (e.append e') := by
  refine ⟨h.tidy.append h'.tidy happart, fun herror v => ?_, fun put => ?_⟩
  · rw [Emission.error?_append, Option.or_eq_none_iff] at herror
    rw [Emission.values_append herror.1, List.mem_append, List.mem_append, h.values herror.1,
      h'.values herror.2]
  · rw [Emission.spell_append, ← h.spell, ← h'.spell]

theorem Emits.append (h : Emits vs x) (h' : EmitsApart ws y) :
    Emits (vs ++ ws) fun put => do
      let before ← x put
      let after ← y put
      return before ++ after := by
  obtain ⟨e, hspells⟩ := h
  obtain ⟨e', hspells', happart⟩ := h'
  exact ⟨e.append e', spells_append hspells hspells' happart⟩

theorem EmitsApart.append (h : EmitsApart vs x) (h' : EmitsApart ws y) :
    EmitsApart (vs ++ ws) fun put => do
      let before ← x put
      let after ← y put
      return before ++ after := by
  obtain ⟨e, hspells, happart⟩ := h
  obtain ⟨e', hspells', happart'⟩ := h'
  exact ⟨e.append e', spells_append hspells hspells' happart', happart.append happart'⟩

theorem emitsApart_text (h : Joint s) : EmitsApart [] fun _ => return s := by
  refine ⟨.text s .done, ⟨.text h.inert .done, fun _ _ => Iff.rfl, fun put => ?_⟩, h.apart⟩
  simp only [Emission.spell, pure_bind, String.append_empty]

/-! ## Templates -/

variable {before between after : String}

/-- An operand between two texts. -/
theorem Emits.around (hbefore : Inert before.toList) (hafter : Joint after) (h : Emits vs x) :
    Emits vs fun put => Operation.around before after (x put) := by
  have hall := Emits.prepend hbefore (h.append (emitsApart_text hafter))
  rw [List.append_nil] at hall
  refine hall.of_eq fun put => ?_
  simp only [Operation.around, bind_assoc, pure_bind, String.append_assoc]

/-- Two operands, the texts in the order in which the operands are taken. -/
theorem Emits.both (hbefore : Inert before.toList) (hbetween : Joint between)
    (hafter : Joint after) (h : Emits vs x) (h' : Emits ws y) {form : String → String → String}
    (hform : ∀ a b, form a b = before ++ (a ++ (between ++ (b ++ after)))) :
    Emits (vs ++ ws) fun put => do
      let a ← x put
      let b ← y put
      return form a b := by
  have hrest := h'.append (emitsApart_text hafter)
  rw [List.append_nil] at hrest
  refine (Emits.prepend hbefore (h.append (hrest.prependApart hbetween))).of_eq fun put => ?_
  simp only [bind_assoc, pure_bind, hform]

/-- A list of operands with commas between them. -/
theorem emits_commaSeparated {α : Type} {values : α → List Value} {write : α → Writer}
    (h : ∀ a, Emits (values a) (write a)) (l : List α) :
    Emits (l.flatMap values) fun put => do
      return commaSeparated (← l.mapM fun a => write a put) := by
  induction l with
  | nil => exact emitsApart_nothing.emits
  | cons a l ih =>
      cases l with
      | nil =>
          rw [List.flatMap_cons, List.flatMap_nil, List.append_nil]
          refine (h a).of_eq fun put => ?_
          simp only [List.mapM_cons, List.mapM_nil, bind_assoc, pure_bind, commaSeparated, bind_pure]
      | cons b l =>
          refine ((h a).append (ih.prependApart joint_comma)).of_eq fun put => ?_
          simp only [List.mapM_cons, bind_assoc, pure_bind, commaSeparated, String.append_assoc]

end

end Sluice
