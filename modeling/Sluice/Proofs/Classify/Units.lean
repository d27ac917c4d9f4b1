import Mathlib.Data.List.Forall2
import Sluice.Proofs.Classify.Semantics

/-!
# The bundled parser and the plain scan

A parser that takes statements as the scanner cuts them always makes progress. The entries of a
query are then the units of the plain scan, and a unit that starts like a schema mutation is never
unparseable, whatever the recogniser knows.
-/

namespace Sluice

open Text Scan

/-! ## The plain scan -/

/-- A statement of the plain scan, with its semicolon: the bytes from `start` up to `stop`. -/
structure ScanUnit where
  start : Nat
  stop : Nat
  text : List Char

/-- Skip trivia, cut a statement, and go on behind it. The text stands at byte `offset`. -/
def scanUnits (offset : Nat) (text : List Char) : List ScanUnit :=
  let rest := skipTrivia text
  let start := offset + triviaLength text
  let stop := start + statementEnd rest
  if rest = [] then []
  else ⟨start, stop, statement rest⟩ :: scanUnits stop (afterStatement rest)
termination_by text.length
decreasing_by
  rename_i hrest
  exact Nat.lt_of_lt_of_le (length_afterStatement_lt hrest) (length_skipTrivia_le text)

theorem scanUnits_of_eq_nil {offset : Nat} {text : List Char} (h : skipTrivia text = []) :
    scanUnits offset text = [] := by
  rw [scanUnits]
  exact if_pos h

theorem scanUnits_of_ne_nil {offset : Nat} {text : List Char} (h : skipTrivia text ≠ []) :
    scanUnits offset text =
      ⟨offset + triviaLength text, offset + triviaLength text + statementEnd (skipTrivia text),
        statement (skipTrivia text)⟩ ::
      scanUnits (offset + triviaLength text + statementEnd (skipTrivia text))
        (afterStatement (skipTrivia text)) := by
  rw [scanUnits]
  exact if_neg h

/-! ## First words -/

/-- The first maximal run of word characters, in capitals. -/
def firstWord (text : List Char) : String :=
  upperAscii (String.ofList ((text.dropWhile fun c => !isWordChar c).takeWhile isWordChar))

theorem runs_headD (p : Char → Bool) (s : List Char) :
    (runs p s).headD [] = (s.dropWhile fun c => !p c).takeWhile p := by
  induction s with
  | nil => rfl
  | cons c s ih =>
      by_cases hc : p c
      · rw [runs.eq_def, List.dropWhile_cons_of_neg (by simp [hc]), List.takeWhile_cons_of_pos hc]
        simp only [hc, ↓reduceIte]
        cases s with
        | nil => rfl
        | cons d s =>
            by_cases hd : p d
            · rw [List.dropWhile_cons_of_neg (by simp [hd])] at ih
              cases hruns : runs p (d :: s) with
              | nil =>
                  rw [hruns, List.takeWhile_cons_of_pos hd] at ih
                  exact absurd ih (List.cons_ne_nil _ _).symm
              | cons run later =>
                  rw [hruns] at ih
                  simp [hd, ← ih]
            · rw [List.takeWhile_cons_of_neg hd]
              cases runs p (d :: s) with
              | nil => rfl
              | cons run later => simp [hd]
      · rw [List.dropWhile_cons_of_pos (by simp [hc]), ← ih, runs.eq_def]
        simp only [hc, Bool.false_eq_true, ↓reduceIte]

theorem classOfWords_cons (head : String) (ws : List String) :
    (Classification.classOfWords (head :: ws)).isSome := by
  cases ws with
  | nil => rfl
  | cons object ws => rfl

/-- The keyword rule applies exactly where the first word starts a schema mutation. -/
theorem keywordClass?_isSome (text : List Char) :
    (Classification.keywordClass? text).isSome ↔ firstWord text ∈ StatementKind.ddlHeads := by
  have hfirst := runs_headD isWordChar text
  simp only [Classification.keywordClass?, firstWord, ← hfirst]
  cases runs isWordChar text with
  | nil => decide
  | cons word later =>
      simp only [List.map_cons, List.headD_cons, List.contains_iff_mem]
      by_cases hddl : upperAscii (String.ofList word) ∈ StatementKind.ddlHeads
      · simp [hddl, classOfWords_cons]
      · simp [hddl]

/-! ## What is reported for a unit -/

/-- The text of a unit without its trailing semicolons. -/
def bare (unit : List Char) : List Char := (unit.reverse.dropWhile (· = ';')).reverse

/-- An entry reports a unit: the class by the recogniser, or else by the first word. -/
structure Reports (recognize : List Char → Option String) (unit : ScanUnit)
    (entry : Classification) : Prop where
  start : entry.start = unit.start
  stop : entry.stop = unit.stop
  recognized : ∀ className, recognize (bare unit.text) = some className →
    entry.className = className ∧ entry.kind = .ofClass className
  keyword : recognize (bare unit.text) = none →
    firstWord unit.text ∈ StatementKind.ddlHeads → entry.kind = .ddl
  unknown : recognize (bare unit.text) = none →
    firstWord unit.text ∉ StatementKind.ddlHeads → entry.kind = .unparseable

theorem ofClass_ne_unparseable (className : String) :
    StatementKind.ofClass className ≠ .unparseable := by
  simp only [StatementKind.ofClass]
  split
  · exact nofun
  · split <;> exact nofun

/-- A unit that starts like a schema mutation is not unparseable. -/
theorem Reports.ne_unparseable {recognize : List Char → Option String} {unit : ScanUnit}
    {entry : Classification} (h : Reports recognize unit entry)
    (hword : firstWord unit.text ∈ StatementKind.ddlHeads) : entry.kind ≠ .unparseable := by
  cases hrecognize : recognize (bare unit.text) with
  | none =>
      rw [h.keyword hrecognize hword]
      exact nofun
  | some className =>
      rw [(h.recognized className hrecognize).2]
      exact ofClass_ne_unparseable className

section

variable {recognize : List Char → Option String} {unit : ScanUnit} {className : String}

theorem reports_recognized (h : recognize (bare unit.text) = some className) :
    Reports recognize unit ⟨.ofClass className, className, unit.start, unit.stop⟩ := by
  refine ⟨rfl, rfl, ?_, ?_, ?_⟩
  · intro other hsome
    obtain rfl := Option.some.inj (h.symm.trans hsome)
    simp only [and_self]
  · simp [h]
  · simp [h]

theorem reports_keyword (h : recognize (bare unit.text) = none)
    (hword : firstWord unit.text ∈ StatementKind.ddlHeads) :
    Reports recognize unit ⟨.ddl, className, unit.start, unit.stop⟩ := by
  refine ⟨rfl, rfl, ?_, fun _ _ => rfl, fun _ hother => absurd hword hother⟩
  simp [h]

theorem reports_unknown (h : recognize (bare unit.text) = none)
    (hword : firstWord unit.text ∉ StatementKind.ddlHeads) :
    Reports recognize unit ⟨.unparseable, className, unit.start, unit.stop⟩ := by
  refine ⟨rfl, rfl, ?_, fun _ hddl => absurd hddl hword, fun _ _ => rfl⟩
  simp [h]

end

section

variable (name : String) (recognize : List Char → Option String) (call : Nat)

/-- The bundled parser consumes a statement as the scanner cuts it. -/
theorem ofRecognizer_parse (text : List Char) :
    (StatementParser.ofRecognizer name recognize).parse call text =
      match recognize (bare (statement text)) with
      | some className => .parsed className (statementEnd text)
      | none => .failed (statementEnd text) := by
  have hparse : (StatementParser.ofRecognizer name recognize).parse call text =
      match recognize (bare ((sliceTo? (statementEnd text) text).getD text)) with
      | some className => .parsed className (statementEnd text)
      | none => .failed (statementEnd text) := rfl
  rw [hparse, sliceTo?_statementEnd, Option.getD_some]

theorem ofRecognizer_consumed (text : List Char) :
    ((StatementParser.ofRecognizer name recognize).parse call text).consumed = statementEnd text := by
  rw [ofRecognizer_parse]
  cases recognize (bare (statement text)) with
  | none => rfl
  | some className => rfl

theorem ofRecognizer_usable {text : List Char} (h : text ≠ []) :
    ParserCall.Usable ⟨text, (StatementParser.ofRecognizer name recognize).parse call text⟩ := by
  have hboundary : IsBoundary text (statementEnd text) :=
    isBoundary_iff.mpr ⟨_, sliceFrom?_statementEnd text⟩
  refine ⟨?_, ?_, ?_⟩
  · rw [ofRecognizer_consumed]
    exact statementEnd_pos h
  · rw [ofRecognizer_consumed]
    exact hboundary.le
  · rw [ofRecognizer_consumed]
    exact hboundary

theorem reports_judged (text : List Char) (start : Nat) :
    Reports recognize ⟨start, start + statementEnd text, statement text⟩
      (judged ((StatementParser.ofRecognizer name recognize).parse call text) (statement text)
        start) := by
  have hkeyword := keywordClass?_isSome (statement text)
  rw [ofRecognizer_parse]
  cases hrecognize : recognize (bare (statement text)) with
  | some className => exact reports_recognized hrecognize
  | none =>
      simp only [judged, Classification.judge]
      cases hclass : Classification.keywordClass? (statement text) with
      | some className =>
          rw [hclass] at hkeyword
          exact reports_keyword hrecognize (hkeyword.mp rfl)
      | none =>
          rw [hclass] at hkeyword
          exact reports_unknown hrecognize fun hword => Bool.noConfusion (hkeyword.mpr hword)

end

/-! ## The loop is the scan -/

/-- With the bundled parser's answers, a run reports the units of the plain scan. -/
theorem ClassifyDerivation.reports (name : String) (recognize : List Char → Option String)
    {sql : List Char} {offset : Nat} {calls : List ParserCall} {entries : List Classification}
    (h : ClassifyDerivation sql offset calls entries)
    (hanswers : ∀ call ∈ calls, ∃ n,
      (StatementParser.ofRecognizer name recognize).parse n call.text = call.outcome)
    {text : List Char} (hcut : sliceFrom? offset sql = some text) :
    (∀ call ∈ calls, call.Usable) ∧
      List.Forall₂ (Reports recognize) (scanUnits offset text) entries := by
  induction h generalizing text with
  | done hcut' hrest =>
      obtain rfl := Option.some.inj (hcut'.symm.trans hcut)
      rw [scanUnits_of_eq_nil hrest]
      exact ⟨fun _ h => (List.not_mem_nil h).elim, .nil⟩
  | stuck hcut' hrest hunusable =>
      obtain ⟨n, hn⟩ := hanswers _ List.mem_cons_self
      simp only at hn
      subst hn
      exact absurd (ofRecognizer_usable name recognize n hrest) hunusable
  | @step offset text' outcome unit calls entries hcut' hrest husable hunit hlater ih =>
      obtain rfl := Option.some.inj (hcut'.symm.trans hcut)
      obtain ⟨n, hn⟩ := hanswers _ List.mem_cons_self
      simp only at hn
      subst hn
      simp only [ofRecognizer_consumed] at hunit hlater ih
      obtain rfl := Option.some.inj ((sliceTo?_statementEnd _).symm.trans hunit)
      have hnext := sliceFrom?_trans (sliceFrom?_start hcut) (sliceFrom?_statementEnd _)
      obtain ⟨hcalls, hreports⟩ :=
        ih (fun call hcall => hanswers call (List.mem_cons_of_mem _ hcall)) hnext
      refine ⟨?_, ?_⟩
      · intro call hcall
        rcases List.mem_cons.mp hcall with rfl | hcall
        · exact husable
        · exact hcalls call hcall
      · rw [scanUnits_of_ne_nil hrest]
        exact .cons (reports_judged name recognize n _ _) hreports

/-- The bundled parser always makes progress, and the entries of a query report the units of the plain
scan one by one. None that starts like a schema mutation is unparseable. -/
theorem ofRecognizer_classify (name : String) (recognize : List Char → Option String)
    (sql : String) (call : Nat) :
    let parser := StatementParser.ofRecognizer name recognize
    let units := scanUnits 0 sql.toList
    ∃ entries calls call',
      classifyFrom (recorded parser.ask) sql.toList 0 ([], call) = (some entries, calls, call') ∧
      parser.classify sql call = entries ∧
      (∀ call ∈ calls, call.Usable) ∧
      List.Forall₂ (Reports recognize) units entries ∧
      List.Forall₂ (fun unit entry => firstWord unit.text ∈ StatementKind.ddlHeads →
        entry.kind ≠ .unparseable) units entries := by
  intro parser units
  have hstart : IsBoundary sql.toList 0 := ⟨[], sql.toList, rfl, rfl⟩
  obtain ⟨entries, calls, call', hrecorded, hrun, hder, hanswers⟩ :=
    classifyFrom_derivation parser.ask sql.toList 0 hstart [] call
  obtain ⟨hcalls, hreports⟩ := hder.reports name recognize hanswers (sliceFrom?_zero sql.toList)
  refine ⟨entries, calls, call', hrecorded, ?_, hcalls, hreports,
    hreports.imp fun _ _ h => h.ne_unparseable⟩
  exact classifyWith_of_run hrun

end Sluice
