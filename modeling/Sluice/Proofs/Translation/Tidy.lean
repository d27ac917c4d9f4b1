import Sluice.Proofs.Translation.Emission
import Sluice.Proofs.Translation.Leaves

/-!
# Tidy emissions

In a tidy emission every text is inert and no text runs into the placeholder before it. The
placeholders of its text are then exactly those of its values, and can be told from all else.
-/

namespace Sluice

open Text Scan

/-! ## Placeholders -/

/-- The two forms of placeholders. -/
def IsMark (s : String) : Prop := s = "?" ∨ ∃ n : Nat, s = "$" ++ toString n

/-- Characters that cannot go on a placeholder, nor a dollar quote. -/
def isApart (c : Char) : Bool := !isWordChar c && c ≠ '$'

/-- A text is empty or sets itself off from a placeholder before it. -/
def Apart (s : List Char) : Prop := ∀ c ∈ s.head?, isApart c = true

theorem Apart.not_isDigit {s : List Char} (h : Apart s) : ∀ c ∈ s.head?, ¬ c.isDigit = true := by
  intro c hc hdigit
  have hword : isWordChar c = true := by
    simp [isWordChar, Char.isAlphanum, hdigit]
  have happart := h c hc
  rw [isApart, hword] at happart
  exact Bool.noConfusion happart

theorem ofText_mark_append {mark : String} (hmark : IsMark mark) {s : List Char} (hs : Apart s) :
    Lexeme.ofText (mark.toList ++ s) = .placeholder mark.toList :: Lexeme.ofText s := by
  rcases hmark with rfl | ⟨n, rfl⟩
  · exact Lexeme.ofText_mark s
  · rw [String.toList_append]
    exact Lexeme.ofText_dollar (natText_ne_nil n) (fun _ => isDigit_of_mem_natText)
      hs.not_isDigit

theorem fill_other (pieces : List (List Char)) (later : List Lexeme) (texts : List (List Char)) :
    Lexeme.fill (pieces.map .other ++ later) texts =
      pieces.flatten ++ Lexeme.fill later texts := by
  induction pieces with
  | nil => rfl
  | cons piece pieces ih =>
      rw [List.map_cons, List.cons_append, Lexeme.fill, ih, List.flatten_cons, List.append_assoc]

theorem filterMap_other (pieces : List (List Char)) (later : List Lexeme) :
    (pieces.map Lexeme.other ++ later).filterMap Lexeme.placeholder? =
      later.filterMap Lexeme.placeholder? := by
  induction pieces with
  | nil => rfl
  | cons piece pieces ih => exact ih

/-! ## Emissions -/

namespace Emission

/-- What is written first cannot go on a placeholder. -/
def StartsApart : Emission → Prop
  | done | fail _ => True
  | text s _ => ∃ c ∈ s.toList.head?, isApart c = true
  | value _ _ => False

/-- Texts are inert, and what follows a value is set off from it. -/
inductive Tidy : Emission → Prop where
  | done : Tidy done
  | fail {error} : Tidy (fail error)
  | text {s rest} : Inert s.toList → Tidy rest → Tidy (text s rest)
  | value {v rest} : rest.StartsApart → Tidy rest → Tidy (value v rest)

theorem StartsApart.append {e e' : Emission} (h : e.StartsApart) (h' : e'.StartsApart) :
    (e.append e').StartsApart := by
  cases e with
  | done => exact h'
  | fail error => trivial
  | text s rest => exact h
  | value v rest => exact h

theorem Tidy.append {e e' : Emission} (h : e.Tidy) (h' : e'.Tidy) (happart : e'.StartsApart) :
    (e.append e').Tidy := by
  induction h with
  | done => exact h'
  | fail => exact .fail
  | text hs _ ih => exact .text hs ih
  | value hrest _ ih => exact .value (hrest.append happart) ih

theorem StartsApart.apart_render {e : Emission} (h : e.StartsApart) (mark : Nat → Value → String)
    (n : Nat) : Apart (e.render mark n).toList := by
  cases e with
  | done => exact nofun
  | fail error => exact nofun
  | text s rest =>
      obtain ⟨c, hc, happart⟩ := h
      rw [render, String.toList_append]
      cases hs : s.toList with
      | nil =>
          rw [hs] at hc
          exact nomatch hc
      | cons d t =>
          rw [hs] at hc
          intro a ha
          obtain rfl := Option.some.inj hc
          obtain rfl := Option.some.inj ha
          exact happart
  | value v rest => exact h.elim

section

variable {e : Emission} {placeholder : Nat → String}

/-- The placeholders in the text are those of the values, numbered on. -/
theorem Tidy.placeholders_render (h : e.Tidy) (hmark : ∀ i, IsMark (placeholder i)) (n : Nat) :
    (Lexeme.ofText (e.render (fun i _ => placeholder i) n).toList).filterMap Lexeme.placeholder? =
      (List.range' (n + 1) e.values.length).map fun i => (placeholder i).toList := by
  induction h generalizing n with
  | done => rw [render, String.toList_empty, Lexeme.ofText]; rfl
  | fail => rw [render, String.toList_empty, Lexeme.ofText]; rfl
  | text hs _ ih =>
      obtain ⟨pieces, -, hread⟩ := hs.readsAsOther
      rw [render, String.toList_append, hread, filterMap_other]
      exact ih n
  | value happart _ ih =>
      rw [render, String.toList_append,
        ofText_mark_append (hmark _) (happart.apart_render _ _), values, List.length_cons,
        List.range'_succ, List.map_cons, ← ih (n + 1)]
      rfl

/-- With texts in place of the placeholders, the text is the one with these texts written out. -/
theorem Tidy.fill_render (h : e.Tidy) (hmark : ∀ i, IsMark (placeholder i))
    (print : Value → String) (n : Nat) :
    Lexeme.fill (Lexeme.ofText (e.render (fun i _ => placeholder i) n).toList)
        (e.values.map fun v => (print v).toList) =
      (e.render (fun _ => print) n).toList := by
  induction h generalizing n with
  | done => rw [render, String.toList_empty, Lexeme.ofText]; rfl
  | fail => rw [render, String.toList_empty, Lexeme.ofText]; rfl
  | text hs _ ih =>
      obtain ⟨pieces, hflat, hread⟩ := hs.readsAsOther
      rw [render, render, String.toList_append, String.toList_append, hread, fill_other, hflat]
      exact congrArg _ (ih n)
  | value happart _ ih =>
      rw [render, render, String.toList_append, String.toList_append,
        ofText_mark_append (hmark _) (happart.apart_render _ _), values, List.map_cons,
        Lexeme.fill, ih (n + 1)]

end

end Emission

end Sluice
