import Sluice.Proofs.Scan.Offset
import Sluice.Classify

/-!
# Runs of the classifier

A run is specified by local rules: trivia are passed over, the parser is called on what is left, and
its answer is either used or ends the run. Every execution of the loop, with any parser, follows
these rules.
-/

namespace Sluice

open Scan

/-- Offsets at which a text can be cut. -/
def IsBoundary (sql : List Char) (n : Nat) : Prop :=
  ∃ before after, sql = before ++ after ∧ byteLength before = n

/-- One call of a parser: the text that it was given, and its answer. -/
structure ParserCall where
  text : List Char
  outcome : ParseOutcome

/-- An answer that makes progress and stays on the characters of the text. -/
structure ParserCall.Usable (call : ParserCall) : Prop where
  progress : 0 < call.outcome.consumed
  inside : call.outcome.consumed ≤ byteLength call.text
  boundary : IsBoundary call.text call.outcome.consumed

/-- The parser `parse`, together with the list of the calls made so far. -/
def recorded {σ : Type} (parse : List Char → StateM σ ParseOutcome) (text : List Char) :
    StateM (List ParserCall × σ) ParseOutcome :=
  fun (calls, s) =>
    let (outcome, s') := parse text s
    (outcome, (calls ++ [⟨text, outcome⟩], s'))

/-- The entry for a query from byte `start` on, where the parser got stuck. -/
def remainder (sql : List Char) (start : Nat) : Classification :=
  ⟨.unparseable, "Unparseable", start, byteLength sql⟩

/-- The entry for a statement at byte `start` that the parser took in. -/
def judged (outcome : ParseOutcome) (unit : List Char) (start : Nat) : Classification :=
  let (kind, className) := Classification.judge outcome unit
  ⟨kind, className, start, start + outcome.consumed⟩

/-- From byte `offset` on, these calls are made and these entries reported. Each rule passes over
trivia first. -/
inductive ClassifyDerivation (sql : List Char) :
    Nat → List ParserCall → List Classification → Prop where
  | done {offset text} :
      sliceFrom? offset sql = some text → skipTrivia text = [] →
      ClassifyDerivation sql offset [] []
  | stuck {offset text outcome} :
      sliceFrom? offset sql = some text → skipTrivia text ≠ [] →
      ¬ ParserCall.Usable ⟨skipTrivia text, outcome⟩ →
      ClassifyDerivation sql offset [⟨skipTrivia text, outcome⟩]
        [remainder sql (offset + triviaLength text)]
  | step {offset text outcome unit calls entries} :
      sliceFrom? offset sql = some text → skipTrivia text ≠ [] →
      ParserCall.Usable ⟨skipTrivia text, outcome⟩ →
      sliceTo? outcome.consumed (skipTrivia text) = some unit →
      ClassifyDerivation sql (offset + triviaLength text + outcome.consumed) calls entries →
      ClassifyDerivation sql offset (⟨skipTrivia text, outcome⟩ :: calls)
        (judged outcome unit (offset + triviaLength text) :: entries)

/-! ## Offsets of the loop -/

theorem isBoundary_iff {sql : List Char} {n : Nat} :
    IsBoundary sql n ↔ ∃ text, sliceFrom? n sql = some text := by
  simp only [IsBoundary, sliceFrom?_eq_some]
  exact exists_comm

theorem isBoundary_iff_sliceTo? {sql : List Char} {n : Nat} :
    IsBoundary sql n ↔ ∃ unit, sliceTo? n sql = some unit := by
  simp only [IsBoundary, sliceTo?_eq_some]

theorem IsBoundary.le {sql : List Char} {n : Nat} (h : IsBoundary sql n) : n ≤ byteLength sql := by
  obtain ⟨before, after, rfl, rfl⟩ := h
  simp

theorem isBoundary_byteLength (sql : List Char) : IsBoundary sql (byteLength sql) :=
  ⟨sql, [], by simp, rfl⟩

/-- A cut of what is left of a text cuts the text. -/
theorem IsBoundary.add {sql text : List Char} {m n : Nat} (hcut : sliceFrom? m sql = some text)
    (h : IsBoundary text n) : IsBoundary sql (m + n) := by
  obtain ⟨rest, hrest⟩ := isBoundary_iff.mp h
  exact isBoundary_iff.mpr ⟨rest, sliceFrom?_trans hcut hrest⟩

section

variable {sql text : List Char} {offset : Nat}

/-- Passing over trivia cuts the text where they end. -/
theorem sliceFrom?_start (h : sliceFrom? offset sql = some text) :
    sliceFrom? (offset + triviaLength text) sql = some (skipTrivia text) :=
  sliceFrom?_trans h (sliceFrom?_triviaLength text)

theorem start_lt_iff (h : sliceFrom? offset sql = some text) :
    offset + triviaLength text < byteLength sql ↔ skipTrivia text ≠ [] := by
  have hlen := byteLength_of_sliceFrom? (sliceFrom?_start h)
  have hempty := byteLength_eq_zero (s := skipTrivia text)
  rw [hlen, ne_eq, ← hempty]
  omega

end

/-! ## Executions follow the rules -/

theorem bind_of_eq {σ α β : Type} {x : StateM σ α} {s s' : σ} {a : α} (h : x s = (a, s'))
    (f : α → StateM σ β) : (x >>= f) s = f a s' := by
  change f (x s).1 (x s).2 = f a s'
  rw [h]

section

variable {σ : Type} {parse : List Char → StateM σ ParseOutcome} {sql text unit : List Char}
  {offset : Nat} {outcome : ParseOutcome} {s s' : σ}

theorem classifyFrom_done (hcut : sliceFrom? offset sql = some text)
    (hrest : skipTrivia text = []) : classifyFrom parse sql offset s = (some [], s) := by
  have hstart : ¬ offset + triviaLength text < byteLength sql := by
    rw [start_lt_iff hcut]
    exact fun hne => hne hrest
  rw [classifyFrom, hcut]
  simp only [hstart, ↓reduceDIte]
  rfl

theorem classifyFrom_stuck (hcut : sliceFrom? offset sql = some text)
    (hrest : skipTrivia text ≠ []) (hparse : parse (skipTrivia text) s = (outcome, s'))
    (hunusable : ¬ ParserCall.Usable ⟨skipTrivia text, outcome⟩) :
    classifyFrom parse sql offset s =
      (some [remainder sql (offset + triviaLength text)], s') := by
  rw [classifyFrom, hcut]
  simp only [(start_lt_iff hcut).mpr hrest, ↓reduceDIte, sliceFrom?_start hcut]
  rw [bind_of_eq hparse]
  by_cases hprogress : 0 < outcome.consumed
  · simp only [hprogress, ↓reduceDIte]
    cases hunit : sliceTo? outcome.consumed (skipTrivia text) with
    | none => rfl
    | some unit =>
        have hboundary := isBoundary_iff_sliceTo?.mpr ⟨unit, hunit⟩
        exact absurd ⟨hprogress, hboundary.le, hboundary⟩ hunusable
  · simp only [hprogress, ↓reduceDIte]
    rfl

theorem classifyFrom_step (hcut : sliceFrom? offset sql = some text)
    (hrest : skipTrivia text ≠ []) (hparse : parse (skipTrivia text) s = (outcome, s'))
    (husable : ParserCall.Usable ⟨skipTrivia text, outcome⟩)
    (hunit : sliceTo? outcome.consumed (skipTrivia text) = some unit)
    {entries : List Classification} {s'' : σ}
    (hlater : classifyFrom parse sql (offset + triviaLength text + outcome.consumed) s' =
      (some entries, s'')) :
    classifyFrom parse sql offset s =
      (some (judged outcome unit (offset + triviaLength text) :: entries), s'') := by
  rw [classifyFrom, hcut]
  simp only [(start_lt_iff hcut).mpr hrest, ↓reduceDIte, sliceFrom?_start hcut]
  rw [bind_of_eq hparse]
  simp only [husable.progress, ↓reduceDIte, hunit]
  rw [bind_of_eq hlater]
  rfl

end

/-- Every run of the loop follows the rules: it never cuts the text inside a character, it reports
the same entries whether or not the calls are recorded, and the answers recorded are the parser's. -/
theorem classifyFrom_derivation {σ : Type} (parse : List Char → StateM σ ParseOutcome)
    (sql : List Char) (offset : Nat) (hoffset : IsBoundary sql offset) (before : List ParserCall)
    (s : σ) :
    ∃ entries calls s',
      classifyFrom (recorded parse) sql offset (before, s) = (some entries, before ++ calls, s') ∧
      classifyFrom parse sql offset s = (some entries, s') ∧
      ClassifyDerivation sql offset calls entries ∧
      ∀ call ∈ calls, ∃ t, (parse call.text t).1 = call.outcome := by
  obtain ⟨text, hcut⟩ := isBoundary_iff.mp hoffset
  by_cases hrest : skipTrivia text = []
  · refine ⟨[], [], s, ?_, classifyFrom_done hcut hrest, .done hcut hrest,
      fun _ h => (List.not_mem_nil h).elim⟩
    rw [List.append_nil]
    exact classifyFrom_done hcut hrest
  · obtain ⟨outcome, s', hparse⟩ : ∃ outcome s', parse (skipTrivia text) s = (outcome, s') :=
      ⟨_, _, rfl⟩
    have hrecorded : recorded parse (skipTrivia text) (before, s) =
        (outcome, before ++ [⟨skipTrivia text, outcome⟩], s') := by
      simp only [recorded, hparse]
    have hanswer : (parse (skipTrivia text) s).1 = outcome := by rw [hparse]
    by_cases husable : ParserCall.Usable ⟨skipTrivia text, outcome⟩
    · obtain ⟨unit, hunit⟩ := isBoundary_iff_sliceTo?.mp husable.boundary
      have hstop := husable.boundary.add (sliceFrom?_start hcut)
      have hprogress : 0 < outcome.consumed := husable.progress
      have hinside : offset + triviaLength text + outcome.consumed ≤ byteLength sql := hstop.le
      obtain ⟨entries, calls, s'', hlater, hlater', hder, hanswers⟩ := classifyFrom_derivation parse sql
        (offset + triviaLength text + outcome.consumed) hstop
        (before ++ [⟨skipTrivia text, outcome⟩]) s'
      refine ⟨_, _, s'', ?_, classifyFrom_step hcut hrest hparse husable hunit hlater',
        .step hcut hrest husable hunit hder, ?_⟩
      · rw [classifyFrom_step hcut hrest hrecorded husable hunit hlater, List.append_assoc]
        rfl
      · intro call hcall
        rcases List.mem_cons.mp hcall with rfl | hcall
        · exact ⟨s, hanswer⟩
        · exact hanswers call hcall
    · refine ⟨_, _, s', classifyFrom_stuck hcut hrest hrecorded husable,
        classifyFrom_stuck hcut hrest hparse husable, .stuck hcut hrest husable, ?_⟩
      intro call hcall
      rw [List.mem_singleton.mp hcall]
      exact ⟨s, hanswer⟩
termination_by byteLength sql - offset
decreasing_by omega

theorem classifyWith_of_run {σ : Type} {parse : List Char → StateM σ ParseOutcome} {sql : String}
    {s s' : σ} {entries : List Classification}
    (h : classifyFrom parse sql.toList 0 s = (some entries, s')) :
    classifyWith parse sql s = entries := by
  change (classifyFrom parse sql.toList 0 s).1.getD [] = entries
  rw [h]
  rfl

end Sluice
