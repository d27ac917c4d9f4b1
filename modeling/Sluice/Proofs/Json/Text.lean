import Sluice.Proofs.Json.Numerals

/-!
# Texts of documents

The text of a document is cut into the tokens that it is made of, and these are put together to a
document again, the same but for what becomes of its numbers, as long as it is not nested deeper
than the reader goes along.
-/

namespace Sluice.Json

/-! ## Characters -/

variable {mode mode' : Mode} {c : Char} {cs rest read : List Char} {ts : List Token}

theorem tokens_cons (h : step mode c = some (ts, mode')) (cs : List Char) :
    tokens mode (c :: cs) = (tokens mode' cs).map (ts ++ ·) := by
  rw [tokens, h]
  change (tokens mode' cs).bind (fun rest => some (ts ++ rest)) = _
  cases tokens mode' cs <;> rfl

/-- What follows neither goes on with a number nor with a word. -/
def Follows (rest : List Char) : Prop :=
  ∀ c ∈ rest.head?, isNumberChar c = false ∧ c.isLower = false

theorem follows_cons (h : isNumberChar c = false ∧ c.isLower = false) (cs : List Char) :
    Follows (c :: cs) := by
  simpa [Follows] using h

/-- A text that is cut into these tokens wherever it stands. -/
def Lexes (text : List Char) (ts : List Token) : Prop :=
  ∀ rest, Follows rest → tokens .between (text ++ rest) = (tokens .between rest).map (ts ++ ·)

/-- A character that is a token for itself. -/
theorem Lexes.cons {text : List Char} {t : Token}
    (hstep : step .between c = some ([t], .between)) (h : Lexes text ts) :
    Lexes (c :: text) (t :: ts) := fun rest hrest => by
  rw [List.cons_append, tokens_cons hstep, h rest hrest, Option.map_map]
  rfl

theorem Lexes.append {text text' : List Char} {ts' : List Token} (h : Lexes text ts)
    (hc : isNumberChar c = false ∧ c.isLower = false) (h' : Lexes (c :: text') ts') :
    Lexes (text ++ c :: text') (ts ++ ts') := fun rest hrest => by
  have hfollows : Follows (c :: text' ++ rest) := follows_cons hc _
  rw [List.append_assoc, h _ hfollows, h' rest hrest, Option.map_map]
  congr 1
  funext us
  exact (List.append_assoc ts ts' us).symm

/-! ## Numbers and words within a text -/

mutual

/-- The tokens of a document. -/
def lex : Json → List Token
  | arr items => .openArray :: (lexItems items ++ [.closeArray])
  | obj fields => .openObject :: (lexFields fields ++ [.closeObject])
  | j => [.leaf j]

def lexItems : List Json → List Token
  | [] => []
  | [j] => lex j
  | j :: rest => lex j ++ .comma :: lexItems rest

def lexFields : List (String × Json) → List Token
  | [] => []
  | [(k, j)] => .leaf (str k) :: .colon :: lex j
  | (k, j) :: rest => .leaf (str k) :: .colon :: (lex j ++ .comma :: lexFields rest)

end

variable {items acc : List Json} {fields kept : List (String × Json)} {expect : Expect}
  {stack : List Frame}

end Sluice.Json
