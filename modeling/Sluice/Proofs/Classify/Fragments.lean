import Sluice.Console.Report
import Sluice.Proofs.Classify.Seam
import Sluice.Proofs.Scan.Elements

/-!
# Fragments on their own

The text of a classified statement, cut out and classified alone, is that statement again and nothing
else: neither what stood before it nor what followed it has had a say in where it ends.
-/

namespace Sluice

open Text Scan

namespace Scan

/-! ## Statements cut out -/

/-- What begins with no trivia does not begin with any when it is cut short. -/
theorem Settled.shorten {s t : List Char} (h : Settled s) (hstarts : t <+: s) : Settled t := by
  obtain ⟨more, rfl⟩ := hstarts
  refine ⟨?_, ?_, ?_⟩
  · rintro c t rfl
    exact h.padding c (t ++ more) rfl
  · rintro t rfl
    exact h.line (t ++ more) rfl
  · rintro t rfl
    exact h.block (t ++ more) rfl

/-- The elements up to a semicolon are read alike without those that follow. -/
theorem Reading.cut {text : List Char} {before after : List (List Char)}
    (h : Reading text (before ++ [';'] :: after)) :
    Reading (before ++ [[';']]).flatten (before ++ [[';']]) := by
  induction before generalizing text with
  | nil => exact .cons (element_semicolon []) .nil
  | cons element before ih =>
      cases h with
      | cons helement hlater =>
          have hstarts : (before ++ [[';']]).flatten <+: (before ++ [';'] :: after).flatten :=
            ⟨after.flatten, by simp⟩
          have hrest : (before ++ [';'] :: after).flatten = _ := hlater.flatten_eq
          rw [hrest] at hstarts
          exact .cons (helement.shorten hstarts (by simp)) (ih hlater)

theorem statement_of_afterStatement {s before : List Char} (h : s = before ++ afterStatement s) :
    statement s = before :=
  List.append_cancel_right ((statement_append s).trans h)

/-- A statement alone is a whole text to the scanner. -/
theorem afterStatement_statement (s : List Char) : afterStatement (statement s) = [] := by
  obtain ⟨elements, hreading⟩ := exists_reading s
  by_cases hmem : [';'] ∈ elements
  · obtain ⟨before, after, rfl, hno⟩ := List.eq_append_cons_of_mem hmem
    have hsplit : s = (before ++ [[';']]).flatten ++ afterStatement s := by
      rw [hreading.afterStatement_eq hno]
      simpa using hreading.flatten_eq.symm
    rw [statement_of_afterStatement hsplit]
    exact hreading.cut.afterStatement_eq hno
  · have hnil := hreading.afterStatement_eq_nil hmem
    have hsplit : s = s ++ afterStatement s := by rw [hnil, List.append_nil]
    rw [statement_of_afterStatement hsplit, hnil]

theorem statement_statement (s : List Char) : statement (statement s) = statement s :=
  statement_of_afterStatement (by rw [afterStatement_statement, List.append_nil])

theorem statementEnd_statement (s : List Char) :
    statementEnd (statement s) = byteLength (statement s) := by
  have hcut := byteLength_eq_statement (statement s)
  rw [afterStatement_statement] at hcut
  exact hcut.symm

theorem statement_ne_nil {s : List Char} (h : s ≠ []) : statement s ≠ [] := by
  intro hnil
  have hshorter := length_afterStatement_lt h
  have hsplit := statement_append s
  rw [hnil, List.nil_append] at hsplit
  rw [hsplit] at hshorter
  exact Nat.lt_irrefl _ hshorter

theorem skipTrivia_statement {s : List Char} (h : Settled s) :
    skipTrivia (statement s) = statement s :=
  (h.shorten ⟨afterStatement s, statement_append s⟩).skipTrivia_eq

end Scan

/-! ## Units cut out -/

/-- The text of a unit alone is scanned as that unit. -/
theorem scanUnits_statement {s : List Char} (h : Settled s) (hne : s ≠ []) :
    scanUnits 0 (statement s) = [⟨0, byteLength (statement s), statement s⟩] := by
  have hskip := skipTrivia_statement h
  have htrivia : triviaLength (statement s) = 0 := by
    rw [← hskip]
    exact triviaLength_skipTrivia _
  have hrest : skipTrivia (statement s) ≠ [] := by
    rw [hskip]
    exact statement_ne_nil hne
  have hempty : skipTrivia [] = [] := by rw [skipTrivia]
  rw [scanUnits_of_ne_nil hrest, hskip, htrivia, statementEnd_statement,
    statement_statement, afterStatement_statement, scanUnits_of_eq_nil hempty, Nat.zero_add,
    Nat.zero_add]

/-- Where a unit of the plain scan stands, and what it holds. -/
theorem exists_of_mem_scanUnits {sql text : List Char} {offset : Nat} {unit : ScanUnit}
    (hcut : sliceFrom? offset sql = some text) (h : unit ∈ scanUnits offset text) :
    ∃ start rest, unit = ⟨start, start + statementEnd rest, statement rest⟩ ∧
      sliceFrom? start sql = some rest ∧ Settled rest ∧ rest ≠ [] := by
  fun_induction scanUnits offset text with
  | case1 => exact (List.not_mem_nil h).elim
  | case2 offset text rest start stop hrest ih =>
      rcases List.mem_cons.mp h with rfl | hlater
      · exact ⟨start, rest, rfl, sliceFrom?_start hcut, settled_skipTrivia text, hrest⟩
      · exact ih (sliceFrom?_trans (sliceFrom?_start hcut) (sliceFrom?_statementEnd rest)) hlater

/-! ## Entries cut out -/

/-- The text of an entry. -/
def Classification.text? (sql : List Char) (entry : Classification) : Option (List Char) :=
  (sliceFrom? entry.start sql).bind (sliceTo? (entry.stop - entry.start))

/-- A report shows the text of an entry. -/
theorem between_of_text? {sql text : List Char} {entry : Classification}
    (h : entry.text? sql = some text) :
    Console.Table.between entry.start entry.stop sql = text := by
  obtain ⟨rest, hfrom, hto⟩ := Option.bind_eq_some_iff.mp h
  obtain ⟨⟨before, _⟩, hsplit, rfl⟩ := Option.map_eq_some_iff.mp hfrom
  obtain ⟨⟨_, after⟩, hsplit', rfl⟩ := Option.map_eq_some_iff.mp hto
  simp only [Console.Table.between, hsplit, hsplit', Option.map_some, Option.getD_some]

/-- The entry that a text with this kind and class has alone. -/
def Classification.alone (entry : Classification) (text : List Char) : Classification :=
  { entry with start := 0, stop := byteLength text }

section

variable (name : String) (recognize : List Char → Option String)

theorem entryOf_alone (start stop n : Nat) (text : List Char) :
    entryOf recognize ⟨0, n, text⟩ =
      { entryOf recognize ⟨start, stop, text⟩ with start := 0, stop := n } := by
  simp only [entryOf]
  cases recognize (bare text) with
  | some className => rfl
  | none => rfl

/-- The text of every entry of a query, cut out and classified alone, is one statement that covers all
of it, with the same kind and the same class. -/
theorem classify_fragment (sql : String) (call : Nat) (entry : Classification)
    (h : entry ∈ (StatementParser.ofRecognizer name recognize).classify sql call) :
    ∃ text, entry.text? sql.toList = some text ∧ text ≠ [] ∧
      Console.Table.between entry.start entry.stop sql.toList = text ∧
      ∀ call', (StatementParser.ofRecognizer name recognize).classify (String.ofList text) call' =
        [entry.alone text] := by
  rw [classify_eq_map] at h
  obtain ⟨unit, hunit, rfl⟩ := List.mem_map.mp h
  obtain ⟨start, rest, rfl, hfrom, hsettled, hne⟩ :=
    exists_of_mem_scanUnits (sliceFrom?_zero sql.toList) hunit
  have htext : (entryOf recognize ⟨start, start + statementEnd rest, statement rest⟩).text?
      sql.toList = some (statement rest) := by
    have hlength : start + statementEnd rest - start = statementEnd rest := Nat.add_sub_cancel_left _ _
    change (sliceFrom? start sql.toList).bind
      (sliceTo? (start + statementEnd rest - start)) = some (statement rest)
    rw [hfrom, Option.bind_some, hlength]
    exact sliceTo?_statementEnd rest
  refine ⟨statement rest, htext, statement_ne_nil hne, between_of_text? htext, fun call' => ?_⟩
  rw [classify_eq_map, String.toList_ofList, scanUnits_statement hsettled hne, List.map_singleton,
    Classification.alone, entryOf_alone recognize start (start + statementEnd rest)]

end

/-- The statement in the middle hides a semicolon in a name and another in a comment. -/
theorem classify_fragment_in_the_middle :
    let parser := StatementParser.ofRecognizer "silent" fun _ => none
    let sql := "SELECT 'é'; DROP TABLE \"a;\" -- ;\n; SELECT 2"
    let entry : Classification := ⟨.ddl, "DROP TABLE", 13, 35⟩
    entry ∈ parser.classify sql 0 ∧
      ∃ text, entry.text? sql.toList = some text ∧ text ≠ [] ∧
        Console.Table.between entry.start entry.stop sql.toList = text ∧
        ∀ call', parser.classify (String.ofList text) call' = [entry.alone text] := by
  intro parser sql entry
  have hentry : entry ∈ parser.classify sql 0 := by decide +kernel
  exact ⟨hentry, classify_fragment "silent" (fun _ => none) sql 0 entry hentry⟩

end Sluice
