import Sluice.Text.Ascii
import Sluice.Text.Blank

/-!
# Statement boundaries

The scanner knows just enough of SQL to find the semicolons that end statements: quoted runs,
bracketed names, comments and dollar-quoted bodies hide a semicolon. Every function returns what
is left of the text, a suffix of its argument. A text is scanned byte by byte and its offsets count
bytes of UTF-8; a byte stands here as the character with its number, and only those of ASCII mean
anything to the scanner.
-/

namespace Sluice.Scan

open Text

/-! ## Runs that hide semicolons -/

/-- What follows the first newline. -/
def skipLine : List Char → List Char
  | [] => []
  | c :: rest => if c = '\n' then rest else skipLine rest

/-- What follows the first `*/`. -/
def skipBlock : List Char → List Char
  | [] => []
  | c :: rest =>
    match c, rest with
    | '*', '/' :: after => after
    | _, _ => skipBlock rest

/-- What follows the first closing mark. -/
def skipQuoted (close : Char) : List Char → List Char
  | [] => []
  | c :: rest => if c = close then rest else skipQuoted close rest

/-- What follows the first occurrence of `mark`. -/
def skipPast (mark : List Char) : List Char → List Char
  | [] => []
  | c :: rest =>
    match dropPrefix? mark (c :: rest) with
    | some after => after
    | none => skipPast mark rest

/-- What follows a body opened by `$tag$`, given the text after the first dollar sign; the text
itself when no tag is closed there. -/
def skipDollar (text : List Char) : List Char :=
  let tag := text.takeWhile isWordChar
  match text.drop tag.length with
  | '$' :: body => skipPast ('$' :: tag ++ ['$']) body
  | _ => text

/-- What follows the run opened by `c`, or just `c` when it opens none. A doubled quote closes a
run and opens the next. -/
def skipRun (c : Char) (rest : List Char) : List Char :=
  match c, rest with
  | '\'', _ => skipQuoted '\'' rest
  | '"', _ => skipQuoted '"' rest
  | '\x60', _ => skipQuoted '\x60' rest
  | '[', _ => skipQuoted ']' rest
  | '-', '-' :: after => skipLine after
  | '/', '*' :: after => skipBlock after
  | '$', _ => skipDollar rest
  | _, _ => rest

theorem length_skipLine_le (s : List Char) : (skipLine s).length ≤ s.length := by
  induction s with
  | nil => simp [skipLine]
  | cons c s ih =>
    simp only [skipLine]
    split <;> simp
    omega

theorem length_skipBlock_le (s : List Char) : (skipBlock s).length ≤ s.length := by
  fun_induction skipBlock s <;> simp <;> omega

theorem length_skipQuoted_le (close : Char) (s : List Char) :
    (skipQuoted close s).length ≤ s.length := by
  induction s with
  | nil => simp [skipQuoted]
  | cons c s ih =>
    simp only [skipQuoted]
    split <;> simp
    omega

theorem length_of_dropPrefix? {mark s rest : List Char} (h : dropPrefix? mark s = some rest) :
    rest.length ≤ s.length := by
  fun_induction dropPrefix? mark s with
  | case1 => simp_all
  | case2 => simp at h
  | case3 _ _ _ ih =>
    have := ih h
    simp; omega
  | case4 => simp at h

theorem length_skipPast_le (mark s : List Char) : (skipPast mark s).length ≤ s.length := by
  induction s with
  | nil => simp [skipPast]
  | cons c s ih =>
    simp only [skipPast]
    split
    · rename_i after h
      exact length_of_dropPrefix? h
    · simp; omega

theorem length_skipDollar_le (s : List Char) : (skipDollar s).length ≤ s.length := by
  simp only [skipDollar]
  split
  · rename_i body h
    have := length_skipPast_le ('$' :: s.takeWhile isWordChar ++ ['$']) body
    have hlen := congrArg List.length h
    simp only [List.length_drop, List.length_cons] at hlen
    omega
  · exact Nat.le_refl _

theorem length_skipRun_le (c : Char) (rest : List Char) :
    (skipRun c rest).length ≤ rest.length := by
  unfold skipRun
  split
  · exact length_skipQuoted_le _ _
  · exact length_skipQuoted_le _ _
  · exact length_skipQuoted_le _ _
  · exact length_skipQuoted_le _ _
  · rename_i after
    have := length_skipLine_le after
    simp; omega
  · rename_i after
    have := length_skipBlock_le after
    simp; omega
  · exact length_skipDollar_le _
  · exact Nat.le_refl _

/-! ## Statements and what lies between them -/

/-- What follows the first semicolon outside every run; nothing when there is none. -/
def afterStatement : List Char → List Char
  | [] => []
  | c :: rest => if c = ';' then rest else afterStatement (skipRun c rest)
termination_by s => s.length
decreasing_by
  have := length_skipRun_le c rest
  simp; omega

/-- What follows leading blanks, comments and empty statements. -/
def skipTrivia : List Char → List Char
  | [] => []
  | c :: rest =>
    if isAsciiBlank c || c = ';' then skipTrivia rest
    else
      match c, rest with
      | '-', '-' :: after => skipTrivia (skipLine after)
      | '/', '*' :: after => skipTrivia (skipBlock after)
      | _, _ => c :: rest
termination_by s => s.length
decreasing_by
  · simp
  · have := length_skipLine_le after
    simp; omega
  · have := length_skipBlock_le after
    simp; omega

theorem length_afterStatement_le (s : List Char) : (afterStatement s).length ≤ s.length := by
  fun_induction afterStatement s with
  | case1 => simp
  | case2 => simp
  | case3 c rest _ ih =>
    have := length_skipRun_le c rest
    simp; omega

theorem length_skipTrivia_le (s : List Char) : (skipTrivia s).length ≤ s.length := by
  fun_induction skipTrivia s with
  | case1 => simp
  | case2 => simp; omega
  | case3 after =>
    have := length_skipLine_le after
    simp; omega
  | case4 after =>
    have := length_skipBlock_le after
    simp; omega
  | case5 => simp

/-! ## Offsets in bytes -/

/-- The bytes of a character in UTF-8, each as the character with its number. -/
def octetsOf (c : Char) : List Char :=
  (String.utf8EncodeChar c).map fun b => Char.ofNat b.toNat

/-- The bytes of a text in UTF-8, each as the character with its number. -/
def octets (s : List Char) : List Char := s.flatMap octetsOf

/-- The length of a text in bytes of UTF-8. -/
def byteLength : List Char → Nat
  | [] => 0
  | c :: s => c.utf8Size + byteLength s

/-- Cut a text after a number of bytes, unless that is inside a character or beyond the end. -/
def splitAtByte : Nat → List Char → Option (List Char × List Char)
  | 0, s => some ([], s)
  | _ + 1, [] => none
  | n + 1, c :: s =>
    if n + 1 < c.utf8Size then none
    else (splitAtByte (n + 1 - c.utf8Size) s).map fun (before, after) => (c :: before, after)

/-- The text from an offset on, unless that is inside a character or beyond the end. -/
def sliceFrom? (offset : Nat) (s : List Char) : Option (List Char) :=
  (splitAtByte offset s).map fun (_, after) => after

/-- The text up to an offset, unless that is inside a character or beyond the end. -/
def sliceTo? (offset : Nat) (s : List Char) : Option (List Char) :=
  (splitAtByte offset s).map fun (before, _) => before

/-- Number of bytes of leading trivia. -/
def triviaLength (s : List Char) : Nat :=
  (octets s).length - (skipTrivia (octets s)).length

/-- Offset in bytes just past the first statement. -/
def statementEnd (s : List Char) : Nat :=
  (octets s).length - (afterStatement (octets s)).length

end Sluice.Scan
