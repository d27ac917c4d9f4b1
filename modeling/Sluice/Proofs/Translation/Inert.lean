import Sluice.Proofs.Dialect.Quoting
import Sluice.Proofs.Scan.Offset
import Sluice.Proofs.Translation.Lexeme

/-!
# Inert texts

An inert text closes its quoted runs and has outside them no placeholder, semicolon or start of a
comment, and neither can its end become one together with what follows. It is read on its own, and
the scanner passes over it.
-/

namespace Sluice

open Text Scan

/-- Characters that mean nothing outside quoted runs, whatever stands next to them. -/
def isSafe (c : Char) : Bool :=
  c.isAlphanum || [' ', '_', '.', ',', '(', ')', '+', '*', '%', '<', '>', '=', '|', '~'].contains c

/-- A minus or a slash is inert where the next character makes no comment of it. -/
inductive Inert : List Char → Prop where
  | nil : Inert []
  | safe {c s} : isSafe c = true → Inert s → Inert (c :: s)
  | minus {c s} : c ≠ '-' → Inert (c :: s) → Inert ('-' :: c :: s)
  | slash {c s} : c ≠ '*' → Inert (c :: s) → Inert ('/' :: c :: s)
  | quoted {mark body s} : mark = '\'' ∨ mark = '"' → mark ∉ body → Inert s →
      Inert (mark :: (body ++ mark :: s))

theorem Inert.append {s t : List Char} (hs : Inert s) (ht : Inert t) : Inert (s ++ t) := by
  induction hs with
  | nil => exact ht
  | safe hc _ ih => exact .safe hc ih
  | minus hc _ ih => exact .minus hc ih
  | slash hc _ ih => exact .slash hc ih
  | quoted hmark hbody _ ih =>
      rw [List.cons_append, List.append_assoc]
      exact .quoted hmark hbody ih

/-! ## Checking texts -/

/-- Check a text outside a quoted run, or inside the run that a mark has opened. -/
def isInertIn : Option Char → List Char → Bool
  | none, [] => true
  | some _, [] => false
  | some mark, c :: rest => isInertIn (if c = mark then none else some mark) rest
  | none, c :: rest =>
    if isSafe c then isInertIn none rest
    else if c = '-' then rest.head?.any (· ≠ '-') && isInertIn none rest
    else if c = '/' then rest.head?.any (· ≠ '*') && isInertIn none rest
    else (c = '\'' || c = '"') && isInertIn (some c) rest

/-- A quoted run goes on up to its mark, and what follows is inert. -/
def ClosesInert (mark : Char) (s : List Char) : Prop :=
  ∃ body rest, s = body ++ mark :: rest ∧ mark ∉ body ∧ Inert rest

theorem closesInert_mark {mark : Char} {s : List Char} (h : Inert s) :
    ClosesInert mark (mark :: s) :=
  ⟨[], s, rfl, List.not_mem_nil, h⟩

theorem ClosesInert.cons {mark c : Char} {s : List Char} (h : ClosesInert mark s) (hc : c ≠ mark) :
    ClosesInert mark (c :: s) := by
  obtain ⟨body, rest, rfl, hbody, hrest⟩ := h
  exact ⟨c :: body, rest, rfl, List.not_mem_cons_of_ne_of_not_mem hc.symm hbody, hrest⟩

theorem ClosesInert.inert {mark : Char} {s : List Char} (h : ClosesInert mark s)
    (hmark : mark = '\'' ∨ mark = '"') : Inert (mark :: s) := by
  obtain ⟨body, rest, rfl, hbody, hrest⟩ := h
  exact .quoted hmark hbody hrest

theorem exists_cons_of_head? {a : Char} {s : List Char} (h : s.head?.any (· ≠ a) = true) :
    ∃ c t, s = c :: t ∧ c ≠ a := by
  cases s with
  | nil => exact Bool.noConfusion h
  | cons c t => exact ⟨c, t, rfl, of_decide_eq_true h⟩

theorem inert_of_isInertIn {mode : Option Char} {s : List Char} (h : isInertIn mode s = true) :
    mode.elim (Inert s) (ClosesInert · s) := by
  fun_induction isInertIn mode s with
  | case1 => exact .nil
  | case2 => exact Bool.noConfusion h
  | case3 mark c rest ih =>
      by_cases hc : c = mark
      · rw [if_pos hc] at ih h
        rw [hc]
        exact closesInert_mark (ih h)
      · rw [if_neg hc] at ih h
        exact (ih h).cons hc
  | case4 c rest hsafe ih => exact .safe hsafe (ih h)
  | case5 rest _ ih =>
      obtain ⟨hnext, hrest⟩ := Bool.and_eq_true_iff.mp h
      obtain ⟨c, t, rfl, hc⟩ := exists_cons_of_head? hnext
      exact .minus hc (ih hrest)
  | case6 rest _ _ ih =>
      obtain ⟨hnext, hrest⟩ := Bool.and_eq_true_iff.mp h
      obtain ⟨c, t, rfl, hc⟩ := exists_cons_of_head? hnext
      exact .slash hc (ih hrest)
  | case7 c rest _ _ _ ih =>
      obtain ⟨hmark, hrest⟩ := Bool.and_eq_true_iff.mp h
      exact (ih hrest).inert (by simpa using hmark)

/-- A text that passes the check is inert. -/
theorem inert_of_check {s : String} (h : isInertIn none s.toList = true) : Inert s.toList :=
  inert_of_isInertIn h

/-! ## Safe characters -/

theorem ne_of_isSafe {c d : Char} (hc : isSafe c = true) (hd : isSafe d = false) : c ≠ d := by
  rintro rfl
  exact Bool.noConfusion (hc.symm.trans hd)

theorem isSafe_of_isWordChar {c : Char} (h : isWordChar c = true) : isSafe c = true := by
  rcases Bool.or_eq_true_iff.mp h with h | h
  · rw [isSafe, h, Bool.true_or]
  · rw [beq_iff_eq.mp h]
    decide

theorem isSafe_of_isDigit {c : Char} (h : c.isDigit = true) : isSafe c = true := by
  simp [isSafe, Char.isAlphanum, h]

theorem toNat_lt_of_isSafe {c : Char} (h : isSafe c = true) : c.toNat < 128 := by
  rcases Bool.or_eq_true_iff.mp h with h | h
  · exact toNat_lt_of_isWordChar (by rw [isWordChar, h, Bool.true_or])
  · have hlist : ([' ', '_', '.', ',', '(', ')', '+', '*', '%', '<', '>', '=', '|', '~'].all
        fun d => d.toNat < 128) = true := by decide
    exact of_decide_eq_true (List.all_eq_true.mp hlist c (List.contains_iff_mem.mp h))

theorem inert_of_isSafe {s : List Char} (h : ∀ c ∈ s, isSafe c = true) : Inert s := by
  induction s with
  | nil => exact .nil
  | cons c s ih =>
      exact .safe (h c List.mem_cons_self) (ih fun d hd => h d (List.mem_cons_of_mem c hd))

/-- Safe characters after an optional sign. -/
theorem inert_signed {sign s : List Char} (hsign : sign = [] ∨ sign = ['-'])
    (hs : ∀ c ∈ s, isSafe c = true) (hne : s ≠ []) : Inert (sign ++ s) := by
  rcases hsign with rfl | rfl
  · exact inert_of_isSafe hs
  · cases s with
    | nil => exact absurd rfl hne
    | cons c s =>
        have hc : c ≠ '-' := ne_of_isSafe (hs c List.mem_cons_self) (by decide)
        exact .minus hc (inert_of_isSafe hs)

/-! ## Quoting -/

theorem inert_runs {mark : Char} (hmark : mark = '\'' ∨ mark = '"') {runs : List (List Char)}
    (hruns : ∀ run ∈ runs, IsRun mark run) : Inert runs.flatten := by
  induction runs with
  | nil => exact .nil
  | cons run runs ih =>
      obtain ⟨hrun, hlater⟩ := List.forall_mem_cons.mp hruns
      cases hrun with
      | closed hbody => exact (Inert.quoted hmark hbody .nil).append (ih hlater)

theorem inert_quoteWith {mark : Char} (hmark : mark = '\'' ∨ mark = '"') (s : String) :
    Inert (quoteWith mark s).toList := by
  obtain ⟨runs, hruns, hflatten⟩ := exists_runs_quoteWith mark s
  rw [← hflatten]
  exact inert_runs hmark hruns

theorem inert_quoteName (s : String) : Inert (quoteName s).toList :=
  inert_quoteWith (.inr rfl) s

/-! ## Reading on behind an inert text -/

theorem skipQuoted_body {mark : Char} {body : List Char} (h : mark ∉ body) (s : List Char) :
    skipQuoted mark (body ++ mark :: s) = s := by
  induction body with
  | nil => exact if_pos rfl
  | cons c body ih =>
      rw [List.cons_append, skipQuoted, if_neg fun heq => h (List.mem_cons.mpr (.inl heq.symm))]
      exact ih fun hmem => h (List.mem_cons_of_mem c hmem)

theorem skipQuote_mark {mark : Char} (h : mark = '\'' ∨ mark = '"') (s : List Char) :
    skipQuote mark s = skipQuoted mark s := by
  rcases h with rfl | rfl <;> rfl

theorem skipRun_mark {mark : Char} (h : mark = '\'' ∨ mark = '"') (s : List Char) :
    skipRun mark s = skipQuoted mark s := by
  rcases h with rfl | rfl <;> rfl

theorem skipQuote_of_isSafe {c : Char} (h : isSafe c = true) (s : List Char) :
    skipQuote c s = s := by
  have hne : ∀ d : Char, isSafe d = false → c ≠ d := fun d hd => ne_of_isSafe h hd
  have hquote : ¬ (c = '\'' ∨ c = '"' ∨ c = '\x60') := by
    rintro (hc | hc | hc) <;> exact hne _ (by decide) hc
  rw [skipQuote, if_neg hquote, if_neg (hne '[' (by decide))]

theorem skipRun_of_isSafe {c : Char} (h : isSafe c = true) (s : List Char) : skipRun c s = s := by
  have hne : ∀ d : Char, isSafe d = false → c = d → False := fun d hd => ne_of_isSafe h hd
  unfold skipRun
  split
  · exact (hne _ (by decide) rfl).elim
  · exact (hne _ (by decide) rfl).elim
  · exact (hne _ (by decide) rfl).elim
  · exact (hne _ (by decide) rfl).elim
  · exact (hne _ (by decide) rfl).elim
  · exact (hne _ (by decide) rfl).elim
  · exact (hne _ (by decide) rfl).elim
  · rfl

theorem skipRun_minus {c : Char} (h : c ≠ '-') (s : List Char) : skipRun '-' (c :: s) = c :: s := by
  unfold skipRun
  split <;> simp_all

theorem skipRun_slash {c : Char} (h : c ≠ '*') (s : List Char) : skipRun '/' (c :: s) = c :: s := by
  unfold skipRun
  split <;> simp_all

/-- A text whose lexemes are none of them placeholders, whatever follows it. -/
def ReadsAsOther (s : List Char) : Prop :=
  ∃ pieces : List (List Char), pieces.flatten = s ∧
    ∀ t, Lexeme.ofText (s ++ t) = pieces.map Lexeme.other ++ Lexeme.ofText t

theorem ReadsAsOther.cons {c : Char} {s : List Char} (h : ReadsAsOther s) (hmark : c ≠ '?')
    (hdollar : c ≠ '$') (hquote : ∀ t, skipQuote c (s ++ t) = s ++ t) : ReadsAsOther (c :: s) := by
  obtain ⟨pieces, rfl, hread⟩ := h
  refine ⟨[c] :: pieces, rfl, fun t => ?_⟩
  rw [List.cons_append, Lexeme.ofText_plain hmark hdollar (hquote t), hread]
  rfl

theorem ReadsAsOther.quoted {mark : Char} {body s : List Char} (h : ReadsAsOther s)
    (hmark : mark = '\'' ∨ mark = '"') (hbody : mark ∉ body) :
    ReadsAsOther (mark :: (body ++ mark :: s)) := by
  obtain ⟨pieces, rfl, hread⟩ := h
  refine ⟨(mark :: (body ++ [mark])) :: pieces, by simp, fun t => ?_⟩
  have hne : mark ≠ '?' ∧ mark ≠ '$' := by
    rcases hmark with rfl | rfl <;> decide
  have hlen : (body ++ mark :: (pieces.flatten ++ t)).length - (pieces.flatten ++ t).length =
      body.length + 1 := by
    simp only [List.length_append, List.length_cons]
    omega
  rw [List.cons_append, List.append_assoc, List.cons_append, Lexeme.ofText_other hne.1 hne.2,
    skipQuote_mark hmark, skipQuoted_body hbody, hread, hlen]
  simp [List.take_append, List.take_of_length_le]

theorem Inert.readsAsOther {s : List Char} (h : Inert s) : ReadsAsOther s := by
  induction h with
  | nil => exact ⟨[], rfl, fun _ => rfl⟩
  | safe hc _ ih =>
      exact ih.cons (ne_of_isSafe hc (by decide)) (ne_of_isSafe hc (by decide))
        fun _ => skipQuote_of_isSafe hc _
  | minus _ _ ih => exact ih.cons (by decide) (by decide) fun _ => rfl
  | slash _ _ ih => exact ih.cons (by decide) (by decide) fun _ => rfl
  | quoted hmark hbody _ ih => exact ih.quoted hmark hbody

/-- The scanner passes over an inert text. -/
theorem Inert.afterStatement {s : List Char} (h : Inert s) (t : List Char) :
    Scan.afterStatement (s ++ t) = Scan.afterStatement t := by
  induction h with
  | nil => rfl
  | safe hc _ ih =>
      rw [List.cons_append, afterStatement_cons (ne_of_isSafe hc (by decide)),
        skipRun_of_isSafe hc, ih]
  | minus hc _ ih =>
      rw [List.cons_append, List.cons_append, afterStatement_cons (by decide), skipRun_minus hc]
      exact ih
  | slash hc _ ih =>
      rw [List.cons_append, List.cons_append, afterStatement_cons (by decide), skipRun_slash hc]
      exact ih
  | @quoted mark body s hmark hbody _ ih =>
      have hne : mark ≠ ';' := by
        rcases hmark with rfl | rfl <;> decide
      rw [List.cons_append, List.append_assoc, List.cons_append, afterStatement_cons hne,
        skipRun_mark hmark, skipQuoted_body hbody, ih]

end Sluice
