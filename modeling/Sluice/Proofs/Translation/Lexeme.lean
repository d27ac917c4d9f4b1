import Sluice.Scan

/-!
# Reading an emitted text

A text is read as a sequence of lexemes: placeholders, which are question marks and numbers after a
dollar sign, quoted runs, and single characters. A quoted run hides whatever stands in it.
-/

namespace Sluice

open Scan

/-- What follows the quoted run that `c` opens, or `rest` when it opens none. -/
def skipQuote (c : Char) (rest : List Char) : List Char :=
  if c = '\'' ∨ c = '"' ∨ c = '\x60' then skipQuoted c rest
  else if c = '[' then skipQuoted ']' rest
  else rest

theorem length_skipQuote_le (c : Char) (rest : List Char) :
    (skipQuote c rest).length ≤ rest.length := by
  rw [skipQuote]
  split
  · exact length_skipQuoted_le c rest
  · split
    · exact length_skipQuoted_le ']' rest
    · exact Nat.le_refl _

/-- The ends of a text, from every place outside its quoted runs. -/
def outside : List Char → List (List Char)
  | [] => []
  | c :: rest => (c :: rest) :: outside (skipQuote c rest)
termination_by s => s.length
decreasing_by exact Nat.lt_succ_of_le (length_skipQuote_le c rest)

/-- A placeholder, or a character or quoted run that is none. -/
inductive Lexeme where
  | placeholder (text : List Char)
  | other (text : List Char)
deriving DecidableEq

namespace Lexeme

/-- The text of a placeholder. -/
def placeholder? : Lexeme → Option (List Char)
  | placeholder text => some text
  | other _ => none

/-- The lexemes of a text. -/
def ofText : List Char → List Lexeme
  | [] => []
  | c :: rest =>
    let digits := if c = '$' then rest.takeWhile Char.isDigit else []
    if c = '?' ∨ digits ≠ [] then placeholder (c :: digits) :: ofText (rest.drop digits.length)
    else
      let after := skipQuote c rest
      other (c :: rest.take (rest.length - after.length)) :: ofText after
termination_by s => s.length
decreasing_by
  · rw [List.length_drop, List.length_cons]
    omega
  · exact Nat.lt_succ_of_le (length_skipQuote_le c rest)

/-- The text of a sequence of lexemes with other texts in place of its placeholders, in order; a
placeholder stays when the texts have run out. -/
def fill : List Lexeme → List (List Char) → List Char
  | [], _ => []
  | other text :: later, texts => text ++ fill later texts
  | placeholder text :: later, [] => text ++ fill later []
  | placeholder _ :: later, text :: texts => text ++ fill later texts

end Lexeme

/-- The placeholders of a statement, from left to right. -/
def placeholdersIn (sql : String) : List String :=
  ((Lexeme.ofText sql.toList).filterMap Lexeme.placeholder?).map String.ofList

/-- A statement with texts in place of its placeholders, from left to right. -/
def fillIn (sql : String) (texts : List String) : String :=
  String.ofList (Lexeme.fill (Lexeme.ofText sql.toList) (texts.map String.toList))

/-! ## Reading on -/

namespace Lexeme

theorem ofText_other {c : Char} (hmark : c ≠ '?') (hdollar : c ≠ '$') (rest : List Char) :
    ofText (c :: rest) = other (c :: rest.take (rest.length - (skipQuote c rest).length)) ::
      ofText (skipQuote c rest) := by
  rw [ofText]
  simp [hmark, hdollar]

/-- A character that neither marks a placeholder nor opens a quoted run. -/
theorem ofText_plain {c : Char} {rest : List Char} (hmark : c ≠ '?') (hdollar : c ≠ '$')
    (hquote : skipQuote c rest = rest) : ofText (c :: rest) = other [c] :: ofText rest := by
  rw [ofText_other hmark hdollar, hquote, Nat.sub_self, List.take_zero]

theorem ofText_mark (rest : List Char) : ofText ('?' :: rest) = placeholder ['?'] :: ofText rest := by
  rw [ofText]
  simp

theorem ofText_dollar {digits rest : List Char} (hne : digits ≠ [])
    (hdigits : ∀ c ∈ digits, c.isDigit) (hrest : ∀ c ∈ rest.head?, ¬ c.isDigit) :
    ofText ('$' :: (digits ++ rest)) = placeholder ('$' :: digits) :: ofText rest := by
  have htake : (digits ++ rest).takeWhile Char.isDigit = digits := by
    rw [List.takeWhile_append_of_pos hdigits]
    cases rest with
    | nil => simp
    | cons c rest => simp [List.takeWhile_cons_of_neg (hrest c rfl)]
  rw [ofText]
  simp [htake, hne]

end Lexeme

end Sluice
