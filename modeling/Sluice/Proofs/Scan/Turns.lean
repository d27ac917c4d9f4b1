import Sluice.Proofs.Scan.Elements
import Sluice.Proofs.Translation.Inert

/-!
# Turns of the scanner

Inside a statement the scanner takes one piece off the text at every turn, a run or a single
character. It knows nothing of doubled marks: a quoted text is a row of runs to it, and the turn
behind the last of them starts with what follows the quoted text.
-/

namespace Sluice.Scan

/-- What the scanner takes off a text turn by turn, up to the semicolon that ends the statement. -/
def turns : List Char → List (List Char)
  | [] => []
  | c :: rest =>
    if c = ';' then [[c]]
    else (c :: rest.take (rest.length - (skipRun c rest).length)) :: turns (skipRun c rest)
termination_by s => s.length
decreasing_by
  have := length_skipRun_le c rest
  simp; omega

@[simp] theorem turns_nil : turns [] = [] := by
  rw [turns]

theorem turns_semicolon (s : List Char) : turns (';' :: s) = [[';']] := by
  rw [turns, if_pos rfl]

/-- A turn takes what the scanner skips. -/
theorem turns_cons {c : Char} (hc : c ≠ ';') (taken : List Char) {left : List Char}
    (hskip : skipRun c (taken ++ left) = left) :
    turns (c :: (taken ++ left)) = (c :: taken) :: turns left := by
  rw [turns, if_neg hc, hskip, List.length_append, Nat.add_sub_cancel, List.take_left]

/-- The turns take the statement off the text. -/
theorem flatten_turns_append (s : List Char) : (turns s).flatten ++ afterStatement s = s := by
  fun_induction afterStatement s with
  | case1 => simp
  | case2 rest => simp [turns_semicolon]
  | case3 c rest hc ih =>
      -- name what is taken, so that the turn can be read off
      obtain ⟨taken, htaken⟩ := skipRun_suffix c rest
      have hskip : skipRun c (taken ++ skipRun c rest) = skipRun c rest := by
        rw [htaken]
      have hturns := turns_cons hc taken hskip
      rw [htaken] at hturns
      rw [hturns, List.flatten_cons, List.append_assoc, ih, List.cons_append, htaken]

/-- The turns over the bytes of a text take as many as its statement has. -/
theorem statementEnd_eq_length (s : List Char) :
    statementEnd s = (turns (octets s)).flatten.length := by
  have hall := congrArg List.length (flatten_turns_append (octets s))
  rw [List.length_append] at hall
  rw [statementEnd]
  omega

/-- A turn starts where the text starts. -/
theorem head?_of_head?_turns {turn s : List Char} (h : turn ∈ (turns s).head?) :
    turn.head? = s.head? := by
  cases s with
  | nil => simp at h
  | cons c rest =>
      rw [turns] at h
      split at h
      · rw [← Option.some.inj h, List.head?_cons, List.head?_cons]
      · rw [← Option.some.inj h, List.head?_cons, List.head?_cons]

/-- Characters that mean nothing are taken one by one. -/
theorem turns_of_isSafe {s : List Char} (hs : ∀ c ∈ s, isSafe c = true) (t : List Char) :
    turns (s ++ t) = s.map ([·]) ++ turns t := by
  induction s with
  | nil => rfl
  | cons c s ih =>
      obtain ⟨hc, hlater⟩ := List.forall_mem_cons.mp hs
      have hturn : turns (c :: (s ++ t)) = [c] :: turns (s ++ t) :=
        turns_cons (ne_of_isSafe hc (by decide)) [] (skipRun_of_isSafe hc _)
      rw [List.cons_append, hturn, ih hlater, List.map_cons, List.cons_append]

/-! ## Quoted runs -/

section

variable {mark : Char} {run : List Char} {runs : List (List Char)}

theorem IsQuote.toNat_lt (h : IsQuote mark) : mark.toNat < 128 := by
  cases h <;> decide

/-- One turn takes one run. -/
theorem turns_run (hmark : IsQuote mark) (hrun : IsRun mark run) (t : List Char) :
    turns (run ++ t) = run :: turns t := by
  cases hrun with
  | @closed body hbody =>
      apply turns_cons hmark.ne_semicolon (body ++ [mark])
      rw [hmark.skipRun_eq, List.append_assoc]
      exact skipQuoted_body hbody t

theorem turns_runs (hmark : IsQuote mark) (hruns : ∀ run ∈ runs, IsRun mark run) (t : List Char) :
    turns (runs.flatten ++ t) = runs ++ turns t := by
  induction runs with
  | nil => rfl
  | cons run runs ih =>
      obtain ⟨hrun, hlater⟩ := List.forall_mem_cons.mp hruns
      rw [List.flatten_cons, List.append_assoc, turns_run hmark hrun, ih hlater, List.cons_append]

/-- The runs of a mark at the front of a text: the scanner opens each of them at once where it has
closed the one before. -/
def quotedRuns (mark : Char) (s : List Char) : List (List Char) :=
  (turns s).takeWhile fun turn => turn.head? = some mark

theorem quotedRuns_eq_nil {t : List Char} (ht : t.head? ≠ some mark) : quotedRuns mark t = [] := by
  rw [quotedRuns]
  cases hturns : turns t with
  | nil => rfl
  | cons turn later =>
      have hhead : turn.head? = t.head? := head?_of_head?_turns (by simp [hturns])
      simp [hhead, ht]

/-- Runs go on as long as the mark stands behind them. -/
theorem quotedRuns_append (hmark : IsQuote mark) (hruns : ∀ run ∈ runs, IsRun mark run)
    {t : List Char} (ht : t.head? ≠ some mark) : quotedRuns mark (runs.flatten ++ t) = runs := by
  have hheads : ∀ run ∈ runs, decide (run.head? = some mark) = true := by
    intro run hrun
    cases hruns run hrun
    simp
  have hrest := quotedRuns_eq_nil ht
  rw [quotedRuns] at hrest
  rw [quotedRuns, turns_runs hmark hruns, List.takeWhile_append_of_pos hheads, hrest,
    List.append_nil]

/-! ## Bytes -/

theorem isRun_octets (h : IsRun mark run) (hmark : mark.toNat < 128) :
    IsRun mark (octets run) := by
  cases h with
  | @closed body hbody =>
      rw [octets_cons_ascii hmark, octets_append, octets_cons_ascii hmark]
      exact .closed fun hmem => hbody (mem_of_mem_octets hmark hmem)

theorem octets_flatten (runs : List (List Char)) :
    octets runs.flatten = (runs.map octets).flatten := by
  induction runs with
  | nil => rfl
  | cons run runs ih => simp [ih]

theorem head?_octets {t : List Char} (hmark : mark.toNat < 128) (ht : t.head? ≠ some mark) :
    (octets t).head? ≠ some mark := by
  intro hhead
  obtain ⟨rest, hrest⟩ := List.head?_eq_some_iff.mp hhead
  obtain ⟨t', rfl, -⟩ := eq_cons_of_octets hmark hrest
  exact ht rfl

end

/-- The scanner takes a quoted text in front of `t` by runs of its mark. The turn after them is the
first of those over `t` alone. -/
structure TakenByRuns (mark : Char) (quoted t : List Char) : Prop where
  /-- Every run is closed by the first mark in it. -/
  closed : ∀ run ∈ quotedRuns mark (octets (quoted ++ t)), IsRun mark run
  /-- The runs make up the quoted text. -/
  covers : (quotedRuns mark (octets (quoted ++ t))).flatten = octets quoted
  /-- All turns are those of the runs and then those over what follows. -/
  resumes : turns (octets (quoted ++ t)) =
    quotedRuns mark (octets (quoted ++ t)) ++ turns (octets t)
  /-- The statement goes on behind the quoted text. -/
  ends : statementEnd (quoted ++ t) = byteLength quoted + statementEnd t

/-- Quotes hide all that stands in a text, and nothing of what follows it. -/
theorem takenByRuns_quoteWith {mark : Char} (hmark : IsQuote mark) (s : String) {t : List Char}
    (ht : t.head? ≠ some mark) : TakenByRuns mark (quoteWith mark s).toList t := by
  obtain ⟨runs, hruns, hflatten⟩ := exists_runs_quoteWith mark s
  -- the mark is ASCII, so the bytes of a run are a run of the same mark
  have hbytes : ∀ run ∈ runs.map octets, IsRun mark run := by
    simpa using fun run hrun => isRun_octets (hruns run hrun) hmark.toNat_lt
  have hcovers : (runs.map octets).flatten = octets (quoteWith mark s).toList := by
    rw [← octets_flatten, hflatten]
  have htext : octets ((quoteWith mark s).toList ++ t) = (runs.map octets).flatten ++ octets t := by
    rw [octets_append, hcovers]
  have hquoted : quotedRuns mark (octets ((quoteWith mark s).toList ++ t)) = runs.map octets := by
    rw [htext]
    exact quotedRuns_append hmark hbytes (head?_octets hmark.toNat_lt ht)
  have hturns : turns (octets ((quoteWith mark s).toList ++ t)) =
      runs.map octets ++ turns (octets t) := by
    rw [htext]
    exact turns_runs hmark hbytes (octets t)
  refine ⟨?_, ?_, ?_, ?_⟩
  · rw [hquoted]
    exact hbytes
  · rw [hquoted]
    exact hcovers
  · rw [hquoted]
    exact hturns
  · rw [statementEnd_eq_length, statementEnd_eq_length, hturns, List.flatten_append, hcovers,
      List.length_append, length_octets]

example : turns "'''; --''' \"é\"; x".toList =
    ["''", "'; --'", "''", " ", "\"é\"", ";"].map String.toList := by
  decide +kernel

end Sluice.Scan
