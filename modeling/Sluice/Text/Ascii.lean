/-!
# Letters, digits and case in ASCII

Keywords, option keys and connection strings compare and fold case in ASCII alone: a character
beyond `'\x7f'` is left as it is and equals only itself.
-/

namespace Sluice.Text

/-- Fold an ASCII lower-case letter to its capital. -/
def upperAscii (s : String) : String :=
  String.ofList (s.toList.map Char.toUpper)

/-- Fold an ASCII capital to its lower-case letter. -/
def lowerAscii (s : String) : String :=
  String.ofList (s.toList.map Char.toLower)

/-- Equality of texts up to the case of ASCII letters. -/
def eqIgnoreCase (s t : String) : Bool :=
  s.toList.map Char.toLower == t.toList.map Char.toLower

/-- The characters a word of SQL is made of: ASCII letters, digits and the underscore. -/
def isWordChar (c : Char) : Bool :=
  c.isAlphanum || c == '_'

def replaceChar (old : Char) (new : List Char) (s : String) : String :=
  String.ofList (s.toList.flatMap fun c => if c = old then new else [c])

/-- The maximal runs of characters that satisfy `p`, in order. -/
def runs (p : Char → Bool) : List Char → List (List Char)
  | [] => []
  | c :: rest =>
    if p c then
      match rest, runs p rest with
      | d :: _, run :: later => if p d then (c :: run) :: later else [c] :: run :: later
      | _, later => [c] :: later
    else
      runs p rest

/-- Cut a text at every occurrence of a separator; the pieces may be empty. -/
def splitChar (sep : Char) : List Char → List (List Char)
  | [] => [[]]
  | c :: rest =>
    match splitChar sep rest with
    | piece :: later => if c = sep then [] :: piece :: later else (c :: piece) :: later
    | [] => [[c]]

/-- Whether `pre` starts `s`; the rest after it when it does. -/
def dropPrefix? : (pre s : List Char) → Option (List Char)
  | [], s => some s
  | _ :: _, [] => none
  | p :: pre, c :: s => if p = c then dropPrefix? pre s else none

/-- Whether `part` occurs somewhere in `s`. -/
def occursIn (part : List Char) : List Char → Bool
  | [] => part.isEmpty
  | c :: s => (dropPrefix? part (c :: s)).isSome || occursIn part s

/-- Pad with `fill` on the left up to a width. -/
def padLeft (width : Nat) (fill : Char) (s : String) : String :=
  String.ofList (List.replicate (width - s.length) fill) ++ s

end Sluice.Text
