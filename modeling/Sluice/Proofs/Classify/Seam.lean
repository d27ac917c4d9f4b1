import Sluice.Proofs.Classify.Units
import Sluice.Proofs.Scan.Steps

/-!
# Classifying texts one after the other

Where a scan ends with a semicolon, a text can be continued: its units stay as they are, and those
of what follows are found as if it stood alone.
-/

namespace Sluice

open Text Scan

/-! ## Seams of the scanner -/

namespace Scan

theorem Step.skipTrivia_eq {s s' : List Char} (h : Step .between s .between s') :
    skipTrivia s = skipTrivia s' := by
  cases h with
  | blank hc => exact skipTrivia_padding (by simp [isPadding, hc]) _
  | empty => exact skipTrivia_padding (by decide) _
  | line => exact skipTrivia_line _
  | block => exact skipTrivia_block _

/-- Trivia that end with a semicolon are followed by the trivia of what comes next; other trivia end
where they did. -/
theorem Finishes.skipTrivia_append {s : List Char} (h : Finishes .between s) (t : List Char) :
    skipTrivia s = [] ∧ skipTrivia (s ++ t) = skipTrivia t ∨
      Finishes .inside (skipTrivia s) ∧ skipTrivia (s ++ t) = skipTrivia s ++ t := by
  generalize hplace : Place.between = place at h
  induction h with
  | semicolon =>
      refine .inl ⟨?_, skipTrivia_padding (by decide) t⟩
      rw [skipTrivia_padding (by decide), skipTrivia]
  | @step _ place' s s' hstep hlater ih =>
      subst hplace
      have happend := hstep.append hlater.suffix t
      cases place' with
      | between =>
          rw [hstep.skipTrivia_eq, happend.skipTrivia_eq]
          exact ih rfl
      | inside =>
          cases hstep with
          | enter hsettled _ =>
              refine .inr ?_
              rw [hsettled.skipTrivia_eq, (hsettled.append hlater.suffix t).skipTrivia_eq]
              exact ⟨hlater, rfl⟩

/-- A statement with its semicolon ends where it did, whatever follows the text. -/
theorem Finishes.afterStatement_append {s : List Char} (h : Finishes .inside s) (t : List Char) :
    afterStatement (s ++ t) = afterStatement s ++ t ∧
      (afterStatement s = [] ∨ Finishes .between (afterStatement s)) := by
  generalize hplace : Place.inside = place at h
  induction h with
  | semicolon =>
      rw [List.cons_append, afterStatement, if_pos rfl, afterStatement, if_pos rfl]
      exact ⟨rfl, .inl rfl⟩
  | step hstep hlater ih =>
      subst hplace
      cases hstep with
      | terminator =>
          rw [List.cons_append, afterStatement, if_pos rfl, afterStatement, if_pos rfl]
          exact ⟨rfl, .inr hlater⟩
      | run hc =>
          rw [List.cons_append, afterStatement_cons hc, afterStatement_cons hc,
            skipRun_append hlater.suffix]
          exact ih rfl

/-! ## Measures -/

theorem byteLength_eq_trivia (s : List Char) :
    byteLength s = triviaLength s + byteLength (skipTrivia s) :=
  byteLength_of_sliceFrom? (sliceFrom?_triviaLength s)

theorem byteLength_eq_statement (s : List Char) :
    byteLength s = statementEnd s + byteLength (afterStatement s) :=
  byteLength_of_sliceFrom? (sliceFrom?_statementEnd s)

theorem statement_of_append {s t : List Char} (h : afterStatement (s ++ t) = afterStatement s ++ t) :
    statement (s ++ t) = statement s := by
  have hlong := statement_append (s ++ t)
  rw [h] at hlong
  have hshort := congrArg (· ++ t) (statement_append s)
  simp only [List.append_assoc] at hshort
  exact List.append_cancel_right (hlong.trans hshort.symm)

theorem triviaLength_of_append {s t : List Char} (h : skipTrivia (s ++ t) = skipTrivia s ++ t) :
    triviaLength (s ++ t) = triviaLength s := by
  have hlong := byteLength_eq_trivia (s ++ t)
  have hshort := byteLength_eq_trivia s
  rw [h, byteLength_append, byteLength_append] at hlong
  omega

theorem statementEnd_of_append {s t : List Char}
    (h : afterStatement (s ++ t) = afterStatement s ++ t) :
    statementEnd (s ++ t) = statementEnd s := by
  have hlong := byteLength_eq_statement (s ++ t)
  have hshort := byteLength_eq_statement s
  rw [h, byteLength_append, byteLength_append] at hlong
  omega

end Scan

/-! ## Seams of the plain scan -/

/-- A unit of a text that stands `n` bytes further on. -/
def ScanUnit.shift (n : Nat) (unit : ScanUnit) : ScanUnit :=
  { unit with start := unit.start + n, stop := unit.stop + n }

theorem scanUnits_shift (n offset : Nat) (text : List Char) :
    scanUnits (offset + n) text = (scanUnits offset text).map (ScanUnit.shift n) := by
  fun_induction scanUnits offset text with
  | case1 _ text _ hrest => rw [scanUnits_of_eq_nil hrest, List.map_nil]
  | case2 offset text rest start stop hrest ih =>
      have hstart : offset + n + triviaLength text = start + n := Nat.add_right_comm _ _ _
      have hstop : start + n + statementEnd rest = stop + n := Nat.add_right_comm _ _ _
      rw [scanUnits_of_ne_nil hrest, List.map_cons, ← ih, hstart, hstop]
      rfl

/-- Only what is left behind the trivia counts, and where it stands. -/
theorem scanUnits_congr {s t : List Char} {m n : Nat} (hskip : skipTrivia s = skipTrivia t)
    (hstart : m + triviaLength s = n + triviaLength t) : scanUnits m s = scanUnits n t := by
  by_cases hrest : skipTrivia t = []
  · rw [scanUnits_of_eq_nil hrest, scanUnits_of_eq_nil (hskip.trans hrest)]
  · rw [scanUnits_of_ne_nil hrest, scanUnits_of_ne_nil fun hnil => hrest (hskip.symm.trans hnil),
      hskip, hstart]

/-- The units of a text whose scan ends with a semicolon, and then those of what follows it. -/
theorem scanUnits_append {a : List Char} (h : Finishes .between a) (offset : Nat) (b : List Char) :
    scanUnits offset (a ++ b) = scanUnits offset a ++ scanUnits (offset + byteLength a) b := by
  fun_induction scanUnits offset a with
  | case1 offset a rest hrest =>
      rcases h.skipTrivia_append b with ⟨-, hskip⟩ | ⟨hinside, -⟩
      · have hlong := byteLength_eq_trivia (a ++ b)
        have hshort := byteLength_eq_trivia b
        rw [hskip, byteLength_append] at hlong
        exact scanUnits_congr hskip (by omega)
      · exact absurd hrest (ne_nil_of_semicolon hinside.suffix)
  | case2 offset a rest start stop hrest ih =>
      rcases h.skipTrivia_append b with ⟨hnil, -⟩ | ⟨hinside, hskip⟩
      · exact absurd hnil hrest
      · obtain ⟨hafter, hlater⟩ := hinside.afterStatement_append b
        change afterStatement (rest ++ b) = afterStatement rest ++ b at hafter
        change afterStatement rest = [] ∨ Finishes .between (afterStatement rest) at hlater
        change skipTrivia (a ++ b) = rest ++ b at hskip
        have hseam : offset + byteLength a = stop + byteLength (afterStatement rest) := by
          have hwhole := byteLength_eq_trivia a
          have hrest := byteLength_eq_statement rest
          change byteLength a = triviaLength a + byteLength rest at hwhole
          omega
        have hnext : scanUnits stop (afterStatement rest ++ b) =
            scanUnits stop (afterStatement rest) ++ scanUnits (offset + byteLength a) b := by
          rcases hlater with hnil | hlater
          · have hempty : scanUnits stop [] = [] := scanUnits_of_eq_nil (by rw [skipTrivia])
            rw [hseam, hnil, hempty]
            rfl
          · rw [ih hlater, hseam]
        rw [scanUnits_of_ne_nil (by rw [hskip]; exact List.append_ne_nil_of_left_ne_nil hrest b),
          hskip, triviaLength_of_append hskip, statementEnd_of_append hafter, hafter,
          statement_of_append hafter, hnext, List.cons_append]

/-! ## Seams of the classification -/

/-- An entry for a text that stands `n` bytes further on. -/
def Classification.shift (n : Nat) (c : Classification) : Classification :=
  { c with start := c.start + n, stop := c.stop + n }

section

variable (name : String) (recognize : List Char → Option String)

/-- What is reported for a unit: the class by the recogniser, or else by the leading keyword. -/
def entryOf (unit : ScanUnit) : Classification :=
  let outcome := match recognize (bare unit.text) with
    | some className => ParseOutcome.parsed className (unit.stop - unit.start)
    | none => .failed (unit.stop - unit.start)
  let (kind, className) := Classification.judge outcome unit.text
  ⟨kind, className, unit.start, unit.stop⟩

theorem entryOf_shift (n : Nat) (unit : ScanUnit) :
    entryOf recognize (unit.shift n) = (entryOf recognize unit).shift n := by
  simp only [entryOf, ScanUnit.shift, Classification.shift]
  cases recognize (bare unit.text) with
  | some className => rfl
  | none => rfl

theorem judged_eq_entryOf (text : List Char) (start call : Nat) :
    judged ((StatementParser.ofRecognizer name recognize).parse call text) (statement text) start =
      entryOf recognize ⟨start, start + statementEnd text, statement text⟩ := by
  rw [ofRecognizer_parse]
  simp only [judged, entryOf]
  cases recognize (bare (statement text)) with
  | some className => rfl
  | none => rfl

/-- The loop with the bundled parser reports the units of the plain scan and nothing else. -/
theorem classifyFrom_ofRecognizer {sql text : List Char} {offset : Nat}
    (hcut : sliceFrom? offset sql = some text) (call : Nat) :
    ∃ call', classifyFrom (StatementParser.ofRecognizer name recognize).ask sql offset call =
      (some ((scanUnits offset text).map (entryOf recognize)), call') := by
  fun_induction scanUnits offset text generalizing call with
  | case1 offset text _ hrest => exact ⟨call, classifyFrom_done hcut hrest⟩
  | case2 offset text rest start stop hrest ih =>
      have hparse : (StatementParser.ofRecognizer name recognize).ask rest call =
          ((StatementParser.ofRecognizer name recognize).parse call rest, call + 1) := rfl
      have hconsumed := ofRecognizer_consumed name recognize call rest
      have hstop := sliceFrom?_trans (sliceFrom?_start hcut) (sliceFrom?_statementEnd rest)
      obtain ⟨call', hlater⟩ := ih hstop (call + 1)
      refine ⟨call', ?_⟩
      rw [List.map_cons, ← judged_eq_entryOf name recognize rest start call]
      refine classifyFrom_step hcut hrest hparse (ofRecognizer_usable name recognize call hrest) ?_ ?_
      · rw [hconsumed]
        exact sliceTo?_statementEnd rest
      · rw [hconsumed]
        exact hlater

theorem classify_eq_map (sql : String) (call : Nat) :
    (StatementParser.ofRecognizer name recognize).classify sql call =
      (scanUnits 0 sql.toList).map (entryOf recognize) := by
  obtain ⟨call', hrun⟩ :=
    classifyFrom_ofRecognizer name recognize (sliceFrom?_zero sql.toList) call
  exact classifyWith_of_run hrun

/-- What is written behind a finished text changes none of its entries, and its own entries are those
that it has alone, moved to where it stands. -/
theorem classify_append_of_finished {a : String} (h : Finished a.toList) (b : String)
    (call callA callB : Nat) :
    let parser := StatementParser.ofRecognizer name recognize
    parser.classify (a ++ b) call =
      parser.classify a callA ++
        (parser.classify b callB).map (Classification.shift (byteLength a.toList)) := by
  intro parser
  have hunits := scanUnits_append h.finishes 0 b.toList
  have hshift := scanUnits_shift (byteLength a.toList) 0 b.toList
  rw [hshift] at hunits
  rw [classify_eq_map, classify_eq_map, classify_eq_map, String.toList_append, hunits,
    List.map_append, List.map_map, List.map_map]
  congr 1
  exact List.map_congr_left fun unit _ => entryOf_shift recognize _ unit

end

/-- Every kind of run hides a semicolon here, and the last semicolon ends the statement. -/
theorem classify_append_hidden_semicolons :
    let a := "/*;*/'é;'''\"é;\"$$;$$--;\n;"
    let parser := StatementParser.ofRecognizer "silent" fun _ => none
    Finished a.toList ∧
      parser.classify (a ++ "DROP TABLE t") 0 =
        parser.classify a 0 ++ (parser.classify "DROP TABLE t" 0).map (Classification.shift 27) := by
  intro a parser
  have hbytes : octets a.toList = ['/', '*', ';', '*', '/', '\'', 'Ã', '©', ';', '\'', '\'', '\'',
      '"', 'Ã', '©', ';', '"', '$', '$', ';', '$', '$', '-', '-', ';', '\n', ';'] := by
    decide +kernel
  have hinside : Finishes .inside ['\'', 'Ã', '©', ';', '\'', '\'', '\'', '"', 'Ã', '©', ';', '"',
      '$', '$', ';', '$', '$', '-', '-', ';', '\n', ';'] :=
    .step (.run (by decide)) <| .step (.run (by decide)) <| .step (.run (by decide)) <|
      .step (.run (by decide)) <| .step (.run (by decide)) .semicolon
  have hfinished : Finished a.toList := by
    rw [Finished, hbytes]
    refine .step .block (.step (.enter ?_ (List.cons_ne_nil _ _)) hinside)
    exact settled_cons (by decide) nofun nofun
  have hlength : byteLength a.toList = 27 := by decide +kernel
  have happend := classify_append_of_finished "silent" (fun _ => none) hfinished "DROP TABLE t" 0 0 0
  rw [hlength] at happend
  exact ⟨hfinished, happend⟩

end Sluice
