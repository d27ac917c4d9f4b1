import Sluice.Postgres.Client
import Sluice.Proofs.Classify.Seam
import Sluice.Proofs.Translation.Inert

/-!
# How PostgreSQL reads a text

PostgreSQL ends a statement at the first semicolon outside strings, quoted names, dollar-quoted
bodies and comments. The scanner serves several backends at once: it takes brackets and backticks
for quotes and knows neither escape strings nor nested comments. Where none of the elements that the
two read differently stands in a statement, they agree on its end; a single bracket can make them
disagree about all that follows.
-/

namespace Sluice.Postgres.Reading

open Text Scan

/-! ## Elements -/

/-- Characters of tags: letters, digits, the underscore, and all characters beyond ASCII. -/
def inTag (c : Char) : Bool := isWordChar c || 128 ≤ c.toNat

def startsName (c : Char) : Bool := inTag c && !c.isDigit

/-- Characters of names, which may hold dollar signs. -/
def inName (c : Char) : Bool := inTag c || c = '$'

def inNumber (c : Char) : Bool := isWordChar c || c = '.'

/-- What follows a line comment; a line feed or a carriage return ends it. -/
def skipRemark : List Char → List Char
  | [] => []
  | c :: rest => if c = '\n' || c = '\r' then rest else skipRemark rest

theorem skipRemark_suffix (s : List Char) : skipRemark s <:+ s := by
  induction s with
  | nil => exact List.suffix_refl _
  | cons c s ih =>
      rw [skipRemark]
      split
      · exact List.suffix_cons c s
      · exact ih.trans (List.suffix_cons c s)

/-- What follows a block comment of some depth; comments nest. -/
def skipNested : Nat → List Char → List Char
  | 0, s => s
  | _ + 1, [] => []
  | depth + 1, '/' :: '*' :: after => skipNested (depth + 2) after
  | depth + 1, '*' :: '/' :: after => skipNested depth after
  | depth + 1, _ :: rest => skipNested (depth + 1) rest

/-- The rest of a string that goes on in a later line: only blanks and line comments, with a line end
among them, stand before its next quote. -/
def continued (lineEnded : Bool) : List Char → Option (List Char)
  | [] => none
  | '\'' :: body => if lineEnded then some body else none
  | '-' :: '-' :: after => continued true (skipRemark after)
  | c :: rest =>
    if c = '\n' || c = '\r' then continued true rest
    else if c = ' ' || c = '\t' || c = '\x0b' || c = '\x0c' then continued lineEnded rest
    else none
termination_by s => s.length
decreasing_by
  · have := (skipRemark_suffix after).length_le
    simp only [List.length_cons]
    omega
  · exact Nat.lt_succ_self _
  · exact Nat.lt_succ_self _

theorem continued_suffix {lineEnded : Bool} {s body : List Char}
    (h : continued lineEnded s = some body) : body <:+ s := by
  fun_induction continued lineEnded s with
  | case1 => cases h
  | case2 rest => exact Option.some.inj h ▸ List.suffix_cons _ rest
  | case3 => cases h
  | case4 _ after ih =>
      exact (ih h).trans ((skipRemark_suffix after).trans
        ((List.suffix_cons _ _).trans (List.suffix_cons _ _)))
  | case5 _ c rest _ _ _ ih => exact (ih h).trans (List.suffix_cons c rest)
  | case6 _ c rest _ _ _ _ ih => exact (ih h).trans (List.suffix_cons c rest)
  | case7 => cases h

/-- What follows an escape string: a backslash takes the next character with it, and a doubled quote
stands for itself. -/
def skipEscaped : List Char → List Char
  | [] => []
  | '\\' :: _ :: after => skipEscaped after
  | '\'' :: '\'' :: after => skipEscaped after
  | '\'' :: rest =>
    match _ : continued false rest with
    | some body => skipEscaped body
    | none => rest
  | _ :: rest => skipEscaped rest
termination_by s => s.length
decreasing_by
  · simp only [List.length_cons]
    omega
  · simp only [List.length_cons]
    omega
  · rename_i hbody
    have := (continued_suffix hbody).length_le
    simp only [List.length_cons]
    omega
  · exact Nat.lt_succ_self _

/-- What follows a dollar-quoted body, given the text behind its first dollar sign; the text itself
where that opens no body. A tag does not start with a digit. -/
def skipBody (s : List Char) : List Char :=
  let tag := s.takeWhile inTag
  match s.dropWhile inTag with
  | '$' :: body => if (tag.headD '_').isDigit then s else skipPast ('$' :: tag ++ ['$']) body
  | _ => s

/-- What follows the element that starts with `c`. Brackets and backticks are ordinary
characters. -/
def skipElement (c : Char) (rest : List Char) : List Char :=
  match c, rest with
  | '\'', _ => skipQuoted '\'' rest
  | '"', _ => skipQuoted '"' rest
  | '-', '-' :: after => skipRemark after
  | '/', '*' :: after => skipNested 1 after
  | '$', _ => skipBody rest
  | 'e', '\'' :: body => skipEscaped body
  | 'E', '\'' :: body => skipEscaped body
  | _, _ =>
    if startsName c then rest.dropWhile inName
    else if c.isDigit then rest.dropWhile inNumber
    else rest

theorem skipNested_suffix (depth : Nat) (s : List Char) : skipNested depth s <:+ s := by
  fun_induction skipNested depth s with
  | case1 => exact List.suffix_refl _
  | case2 => exact List.suffix_refl _
  | case3 _ after ih => exact ih.trans ((List.suffix_cons _ _).trans (List.suffix_cons _ _))
  | case4 _ after ih => exact ih.trans ((List.suffix_cons _ _).trans (List.suffix_cons _ _))
  | case5 _ c rest _ _ ih => exact ih.trans (List.suffix_cons c rest)

theorem skipEscaped_suffix (s : List Char) : skipEscaped s <:+ s := by
  fun_induction skipEscaped s with
  | case1 => exact List.suffix_refl _
  | case2 _ after ih => exact ih.trans ((List.suffix_cons _ _).trans (List.suffix_cons _ _))
  | case3 after ih => exact ih.trans ((List.suffix_cons _ _).trans (List.suffix_cons _ _))
  | case4 rest _ body hbody ih =>
      exact ih.trans ((continued_suffix hbody).trans (List.suffix_cons _ rest))
  | case5 rest _ _ => exact List.suffix_cons _ rest
  | case6 c rest _ _ _ ih => exact ih.trans (List.suffix_cons c rest)

theorem skipBody_suffix (s : List Char) : skipBody s <:+ s := by
  simp only [skipBody]
  split
  · rename_i body hbody
    have hrest : body <:+ s :=
      (List.suffix_cons '$' body).trans (hbody ▸ List.dropWhile_suffix inTag)
    split
    · exact List.suffix_refl _
    · exact (skipPast_suffix _ body).trans hrest
  · exact List.suffix_refl _

theorem skipElement_suffix (c : Char) (s : List Char) : skipElement c s <:+ s := by
  unfold skipElement
  split
  · exact skipQuoted_suffix _ _
  · exact skipQuoted_suffix _ _
  · exact (skipRemark_suffix _).trans (List.suffix_cons _ _)
  · exact (skipNested_suffix _ _).trans (List.suffix_cons _ _)
  · exact skipBody_suffix _
  · exact (skipEscaped_suffix _).trans (List.suffix_cons _ _)
  · exact (skipEscaped_suffix _).trans (List.suffix_cons _ _)
  · split
    · exact List.dropWhile_suffix _
    · split
      · exact List.dropWhile_suffix _
      · exact List.suffix_refl _

/-! ## Statements -/

/-- What follows the first semicolon outside every element that hides one. -/
def afterStatement : List Char → List Char
  | [] => []
  | c :: rest => if c = ';' then rest else afterStatement (skipElement c rest)
termination_by s => s.length
decreasing_by
  have := (skipElement_suffix c rest).length_le
  simp only [List.length_cons]
  omega

/-- The text from every element of the first statement on. -/
def elements : List Char → List (List Char)
  | [] => []
  | c :: rest => if c = ';' then [] else (c :: rest) :: elements (skipElement c rest)
termination_by s => s.length
decreasing_by
  have := (skipElement_suffix c rest).length_le
  simp only [List.length_cons]
  omega

/-- Offset in bytes just past the first statement. -/
def statementEnd (s : List Char) : Nat := byteLength s - byteLength (afterStatement s)

example : statementEnd "SELECT E'\\';' /* /* */ ; */; x".toList = 28 := by decide +kernel

/-! ## Where the scanner reads otherwise -/

/-- Another comment opens before the comment closes. -/
def nests : List Char → Bool
  | [] => false
  | '/' :: '*' :: _ => true
  | '*' :: '/' :: _ => false
  | _ :: rest => nests rest

/-- A backslash takes a quote of an escape string, or the string goes on in a later line. -/
def escapesQuote : List Char → Bool
  | [] => false
  | '\\' :: c :: after => c = '\'' || escapesQuote after
  | '\'' :: '\'' :: after => escapesQuote after
  | '\'' :: rest => (continued false rest).isSome
  | _ :: rest => escapesQuote rest

/-- A dollar sign closes a tag that starts with a digit or goes beyond ASCII. -/
def oddTag (s : List Char) : Bool :=
  let tag := s.takeWhile inTag
  (s.dropWhile inTag).head? = some '$' &&
    ((tag.headD '_').isDigit || tag.any fun c => 128 ≤ c.toNat)

/-- The scanner may have another rule for the element at the start of a text: a bracket or a backtick,
a line comment that a carriage return ends, a nested comment, a tag with characters that it does not
know, an escape string with an escaped quote or a second line, or a name with a dollar sign. -/
def diverges (s : List Char) : Bool :=
  match s with
  | '[' :: _ => true
  | '\x60' :: _ => true
  | '-' :: '-' :: after => (after.takeWhile (· ≠ '\n')).contains '\r'
  | '/' :: '*' :: after => nests after
  | '$' :: rest => oddTag rest
  | 'e' :: '\'' :: body => escapesQuote body
  | 'E' :: '\'' :: body => escapesQuote body
  | c :: rest => startsName c && (rest.takeWhile inName).contains '$'
  | [] => false

/-! ## Elements that are read alike -/

theorem skipRemark_eq {s : List Char} (h : (s.takeWhile (· ≠ '\n')).contains '\r' = false) :
    skipRemark s = skipLine s := by
  induction s with
  | nil => rfl
  | cons c s ih =>
      rw [skipRemark, skipLine]
      by_cases hc : c = '\n'
      · simp only [hc, decide_true, Bool.true_or, ↓reduceIte]
      · rw [List.takeWhile_cons_of_pos (by simpa using hc), List.contains_cons,
          Bool.or_eq_false_iff] at h
        have hreturn : c ≠ '\r' := fun heq => beq_eq_false_iff_ne.mp h.1 heq.symm
        simp only [hc, hreturn, decide_false, Bool.or_self, Bool.false_eq_true, ↓reduceIte]
        exact ih h.2

theorem skipNested_eq {s : List Char} (h : nests s = false) : skipNested 1 s = skipBlock s := by
  fun_induction nests s with
  | case1 => rfl
  | case2 => cases h
  | case3 after => rw [skipNested, skipNested, skipBlock]
  | case4 c rest hopen hclose ih =>
      rw [skipNested, skipBlock_cons, ih h]
      · rintro after heq
        obtain ⟨rfl, rfl⟩ := List.cons.inj heq
        exact hclose after rfl rfl
      · exact hopen
      · exact hclose

/-- A tag without characters beyond ASCII is a tag for the scanner too. -/
theorem word_of_tag {s : List Char}
    (h : ((s.takeWhile inTag).any fun c => 128 ≤ c.toNat) = false) :
    s.takeWhile isWordChar = s.takeWhile inTag ∧ s.dropWhile isWordChar = s.dropWhile inTag := by
  induction s with
  | nil => exact ⟨rfl, rfl⟩
  | cons c s ih =>
      by_cases htag : inTag c
      · rw [List.takeWhile_cons_of_pos htag, List.any_cons, Bool.or_eq_false_iff] at h
        have hword : isWordChar c = true := by
          rw [inTag, h.1, Bool.or_false] at htag
          exact htag
        obtain ⟨htake, hdrop⟩ := ih h.2
        rw [List.takeWhile_cons_of_pos hword, List.takeWhile_cons_of_pos htag, htake,
          List.dropWhile_cons_of_pos hword, List.dropWhile_cons_of_pos htag, hdrop]
        exact ⟨rfl, rfl⟩
      · have hword : ¬ isWordChar c = true := fun hword => htag (by rw [inTag, hword, Bool.true_or])
        rw [List.takeWhile_cons_of_neg hword, List.takeWhile_cons_of_neg htag,
          List.dropWhile_cons_of_neg hword, List.dropWhile_cons_of_neg htag]
        exact ⟨rfl, rfl⟩

/-- A character beyond ASCII in a tag stops the scanner, which then sees no dollar sign. -/
theorem dropWhile_word_of_tag {s : List Char}
    (h : ((s.takeWhile inTag).any fun c => 128 ≤ c.toNat) = true) (body : List Char) :
    s.dropWhile isWordChar ≠ '$' :: body := by
  induction s with
  | nil => exact Bool.noConfusion h
  | cons c s ih =>
      by_cases hword : isWordChar c
      · have htag : inTag c = true := by rw [inTag, hword, Bool.true_or]
        have hlow : decide (128 ≤ c.toNat) = false :=
          decide_eq_false (Nat.not_le.mpr (toNat_lt_of_isWordChar hword))
        rw [List.takeWhile_cons_of_pos htag, List.any_cons, hlow, Bool.false_or] at h
        rw [List.dropWhile_cons_of_pos hword]
        exact ih h
      · rw [List.dropWhile_cons_of_neg hword]
        intro heq
        rw [(List.cons.inj heq).1, List.takeWhile_cons_of_neg (by decide)] at h
        exact Bool.noConfusion h

theorem skipBody_of_tag {s body : List Char} (h : s.dropWhile inTag = '$' :: body)
    (hdigit : ((s.takeWhile inTag).headD '_').isDigit = false) :
    skipBody s = skipPast ('$' :: s.takeWhile inTag ++ ['$']) body := by
  rw [skipBody, h]
  exact if_neg (Bool.eq_false_iff.mp hdigit)

theorem skipBody_of_ne {s : List Char} (h : ∀ body, s.dropWhile inTag ≠ '$' :: body) :
    skipBody s = s := by
  rw [skipBody]
  split
  · rename_i body hbody
    exact absurd hbody (h body)
  · rfl

theorem skipDollar_of_tag {s body : List Char} (h : s.dropWhile isWordChar = '$' :: body) :
    skipDollar s = skipPast ('$' :: s.takeWhile isWordChar ++ ['$']) body := by
  rw [skipDollar, drop_length_takeWhile, h]
  rfl

theorem skipDollar_of_ne {s : List Char} (h : ∀ body, s.dropWhile isWordChar ≠ '$' :: body) :
    skipDollar s = s := by
  rw [skipDollar, drop_length_takeWhile]
  split
  · rename_i body hbody
    exact absurd hbody (h body)
  · rfl

theorem skipBody_eq {s : List Char} (h : oddTag s = false) : skipBody s = skipDollar s := by
  rw [oddTag] at h
  cases hforeign : (s.takeWhile inTag).any fun c => 128 ≤ c.toNat with
  | false =>
      obtain ⟨htake, hdrop⟩ := word_of_tag hforeign
      by_cases hbody : ∃ body, s.dropWhile inTag = '$' :: body
      · obtain ⟨body, hbody⟩ := hbody
        have hdigit : ((s.takeWhile inTag).headD '_').isDigit = false := by
          simpa [hbody, hforeign] using h
        rw [skipBody_of_tag hbody hdigit, skipDollar_of_tag (hdrop.trans hbody), htake]
      · have hne := not_exists.mp hbody
        rw [skipBody_of_ne hne, skipDollar_of_ne (hdrop ▸ hne)]
  | true =>
      have hne : ∀ body, s.dropWhile inTag ≠ '$' :: body := by
        intro body hbody
        simp [hbody, hforeign] at h
      rw [skipBody_of_ne hne, skipDollar_of_ne (dropWhile_word_of_tag hforeign)]

/-- An escape string without an escaped quote is a string for the scanner, or several in a row. -/
theorem afterStatement_escaped {s : List Char} (h : escapesQuote s = false) :
    Scan.afterStatement (skipQuoted '\'' s) = Scan.afterStatement (skipEscaped s) := by
  fun_induction escapesQuote s with
  | case1 => rw [skipQuoted, skipEscaped]
  | case2 c after ih =>
      rw [Bool.or_eq_false_iff] at h
      have hc : c ≠ '\'' := of_decide_eq_false h.1
      rw [skipQuoted, if_neg (by decide), skipQuoted, if_neg hc, skipEscaped, ih h.2]
  | case3 after ih =>
      rw [skipQuoted, if_pos rfl, skipEscaped, afterStatement_cons (by decide)]
      exact ih h
  | case4 rest hno =>
      rw [skipQuoted, if_pos rfl, skipEscaped]
      · split
        · rename_i body hbody
          rw [hbody] at h
          exact Bool.noConfusion h
        · rfl
      · exact hno
  | case5 c rest hescape hdouble hquote ih =>
      have hc : c ≠ '\'' := fun hc => hquote hc
      rw [skipQuoted, if_neg hc, skipEscaped, ih h]
      · exact hescape
      · exact hdouble
      · exact hquote

/-- Characters that the scanner passes over wherever they stand outside runs. -/
def IsPlain (c : Char) : Prop := inTag c = true ∨ c = '.'

theorem IsPlain.skipRun_eq {c : Char} (h : IsPlain c) (s : List Char) : skipRun c s = s := by
  rcases h with h | rfl
  · rcases Bool.or_eq_true_iff.mp h with hword | hle
    · exact skipRun_of_isSafe (isSafe_of_isWordChar hword) s
    · exact skipRun_of_le (of_decide_eq_true hle) s
  · rfl

theorem IsPlain.ne_semicolon {c : Char} (h : IsPlain c) : c ≠ ';' := by
  rintro rfl
  rcases h with h | h
  · exact Bool.noConfusion h
  · exact absurd h (by decide)

theorem afterStatement_plain {s : List Char} (h : ∀ c ∈ s, IsPlain c) (t : List Char) :
    Scan.afterStatement (s ++ t) = Scan.afterStatement t := by
  induction s with
  | nil => rfl
  | cons c s ih =>
      have hc := h c List.mem_cons_self
      rw [List.cons_append, afterStatement_cons hc.ne_semicolon, hc.skipRun_eq]
      exact ih fun d hd => h d (List.mem_cons_of_mem c hd)

/-- A name or a number, as far as `p` goes, is passed over. -/
theorem afterStatement_dropWhile {c : Char} {p : Char → Bool} {s : List Char} (hc : IsPlain c)
    (h : ∀ d ∈ s.takeWhile p, IsPlain d) :
    Scan.afterStatement (c :: s) = Scan.afterStatement (s.dropWhile p) := by
  have hword := afterStatement_plain h (s.dropWhile p)
  rw [List.takeWhile_append_dropWhile] at hword
  rw [afterStatement_cons hc.ne_semicolon, hc.skipRun_eq, hword]

theorem not_mem_of_diverges {c : Char} {s : List Char} (hname : startsName c = true)
    (h : diverges (c :: s) = false) : '$' ∉ s.takeWhile inName := by
  rw [diverges.eq_def] at h
  split at h
  · exact Bool.noConfusion h
  · exact Bool.noConfusion h
  · rename_i heq
    rw [(List.cons.inj heq).1] at hname
    exact Bool.noConfusion hname
  · rename_i heq
    rw [(List.cons.inj heq).1] at hname
    exact Bool.noConfusion hname
  · rename_i heq
    rw [(List.cons.inj heq).1] at hname
    exact Bool.noConfusion hname
  · rename_i heq
    rw [(List.cons.inj heq).2, List.takeWhile_cons_of_neg (by decide)]
    exact List.not_mem_nil
  · rename_i heq
    rw [(List.cons.inj heq).2, List.takeWhile_cons_of_neg (by decide)]
    exact List.not_mem_nil
  · rename_i heq
    obtain ⟨rfl, rfl⟩ := List.cons.inj heq
    rw [hname, Bool.true_and] at h
    exact fun hmem => Bool.noConfusion (h.symm.trans (List.contains_iff_mem.mpr hmem))
  · rename_i heq
    exact (List.cons_ne_nil _ _ heq).elim

theorem isPlain_of_startsName {c : Char} (h : startsName c = true) : IsPlain c :=
  .inl (Bool.and_eq_true_iff.mp h).1

theorem isPlain_of_isDigit {c : Char} (h : c.isDigit = true) : IsPlain c := by
  refine .inl ?_
  simp [inTag, isWordChar, Char.isAlphanum, h]

theorem isPlain_of_inNumber {c : Char} (h : inNumber c = true) : IsPlain c := by
  rcases Bool.or_eq_true_iff.mp h with hword | hpoint
  · exact .inl (by rw [inTag, hword, Bool.true_or])
  · exact .inr (of_decide_eq_true hpoint)

/-- Behind an element that does not diverge the scanner goes on as PostgreSQL does. -/
theorem afterStatement_skipElement {c : Char} {rest : List Char} (hc : c ≠ ';')
    (h : diverges (c :: rest) = false) :
    Scan.afterStatement (c :: rest) = Scan.afterStatement (skipElement c rest) := by
  unfold skipElement
  split
  · exact afterStatement_cons hc rest
  · exact afterStatement_cons hc rest
  · rename_i after
    rw [skipRemark_eq h]
    exact afterStatement_cons hc ('-' :: after)
  · rename_i after
    rw [skipNested_eq h]
    exact afterStatement_cons hc ('*' :: after)
  · rw [skipBody_eq h]
    exact afterStatement_cons hc rest
  · rename_i body
    rw [← afterStatement_escaped h]
    exact (afterStatement_cons hc ('\'' :: body)).trans (afterStatement_cons (by decide) body)
  · rename_i body
    rw [← afterStatement_escaped h]
    exact (afterStatement_cons hc ('\'' :: body)).trans (afterStatement_cons (by decide) body)
  · rename_i hquote hname hdollar hline hblock _ _
    split
    · rename_i hstarts
      refine afterStatement_dropWhile (isPlain_of_startsName hstarts) fun d hd => ?_
      have hin : inName d = true := List.mem_takeWhile_imp hd
      rcases Bool.or_eq_true_iff.mp hin with htag | hd'
      · exact .inl htag
      · rw [of_decide_eq_true hd'] at hd
        exact absurd hd (not_mem_of_diverges hstarts h)
    · split
      · rename_i hdigit
        exact afterStatement_dropWhile (isPlain_of_isDigit hdigit) fun d hd =>
          isPlain_of_inNumber (List.mem_takeWhile_imp hd)
      · rw [afterStatement_cons hc]
        congr 1
        unfold skipRun
        split
        · exact (hquote rfl).elim
        · exact (hname rfl).elim
        · exact Bool.noConfusion h
        · exact Bool.noConfusion h
        · exact (hline _ rfl rfl).elim
        · exact (hblock _ rfl rfl).elim
        · exact (hdollar rfl).elim
        · rfl

/-! ## Ends of statements -/

theorem afterStatement_eq {s : List Char} (h : ∀ rest ∈ elements s, diverges rest = false) :
    Scan.afterStatement s = afterStatement s := by
  fun_induction afterStatement s with
  | case1 => rw [Scan.afterStatement]
  | case2 rest => rw [Scan.afterStatement, if_pos rfl]
  | case3 c rest hc ih =>
      rw [elements, if_neg hc, List.forall_mem_cons] at h
      rw [afterStatement_skipElement hc h.1, ih h.2]

/-- The parser of PostgreSQL takes a text for one statement up to where PostgreSQL ends it, unless
the scanner reads an element of that statement otherwise. -/
theorem parse_consumes_statement {text : List Char}
    (h : ∀ rest ∈ elements text, diverges rest = false) (call : Nat) :
    ((Guard.parserOf driver).parse call text).consumed = statementEnd text := by
  have hconsumed : ((Guard.parserOf driver).parse call text).consumed = Scan.statementEnd text :=
    ofRecognizer_consumed _ _ call text
  have hend := byteLength_eq_statement text
  rw [hconsumed, statementEnd, ← afterStatement_eq h]
  omega

theorem parse_consumes_hidden_semicolons :
    let text := "SELECT ';' || $f$;$f$, \"b;\" -- ;\n /* ; */ FROM t WHERE c = E'\\n;'; DROP t".toList
    (∀ rest ∈ elements text, diverges rest = false) ∧ statementEnd text = 66 ∧
      ((Guard.parserOf driver).parse 0 text).consumed = 66 := by
  intro text
  have hend : statementEnd text = 66 := by decide +kernel
  have halike : ∀ rest ∈ elements text, diverges rest = false := by decide +kernel
  exact ⟨halike, hend, (parse_consumes_statement halike 0).trans hend⟩

/-- The bracket inside the string ends the run that the first bracket opens; what the closing quote
then opens hides a whole statement. -/
theorem bracket_hides_statement :
    let sql := "SELECT ARRAY['a]']; DROP TABLE x; --'"
    statementEnd sql.toList = 19 ∧ ((Guard.parserOf driver).parse 0 sql.toList).consumed = 37 ∧
      (Guard.parserOf driver).classify sql = [⟨.dql, "Query", 0, 37⟩] := by
  decide +kernel

end Sluice.Postgres.Reading
