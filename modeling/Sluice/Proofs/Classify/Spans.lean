import Mathlib.Data.List.Forall2
import Sluice.Proofs.Classify.Semantics

/-!
# The spans of a classified query

Whatever the parser answers, the spans cut the query into statements with nothing but trivia between
them, and the parser has been called once for every span, on the text that starts there.
-/

namespace Sluice

open Scan

/-- From byte `start` on, trivia reach up to byte `stop`. -/
def IsTrivia (sql : List Char) (start stop : Nat) : Prop :=
  ∃ text, sliceFrom? start sql = some text ∧ start + triviaLength text = stop

/-- What stands between the spans, from byte `offset` on: before the first, between two, and after
the last. -/
def gaps (sql : List Char) (offset : Nat) (entries : List Classification) : List (Nat × Nat) :=
  (offset :: entries.map (·.stop)).zip (entries.map (·.start) ++ [byteLength sql])

/-- The spans are nonempty, lie inside the query on characters, follow one another without overlap,
and leave trivia only. -/
structure Tiles (sql : List Char) (entries : List Classification) : Prop where
  nonempty : ∀ entry ∈ entries, entry.start < entry.stop
  inside : ∀ entry ∈ entries, entry.stop ≤ byteLength sql
  boundaries : ∀ entry ∈ entries, IsBoundary sql entry.start ∧ IsBoundary sql entry.stop
  ordered : entries.Pairwise fun entry later => entry.stop ≤ later.start
  trivia : ∀ gap ∈ gaps sql 0 entries, IsTrivia sql gap.1 gap.2

/-- The call that led to an entry was made on the text from the start of its span, which is not
empty and starts with no trivia. A usable answer is taken over; any other makes the rest of the query
unparseable. -/
structure Answers (sql : List Char) (call : ParserCall) (entry : Classification) : Prop where
  text : sliceFrom? entry.start sql = some call.text
  nonempty : call.text ≠ []
  settled : triviaLength call.text = 0
  usable : call.Usable → ∃ unit, sliceTo? call.outcome.consumed call.text = some unit ∧
    entry = judged call.outcome unit entry.start
  unusable : ¬ call.Usable → entry = remainder sql entry.start

/-- There is one call for every entry, in the same order, and only the last answer may be
unusable. -/
structure Asked (sql : List Char) (calls : List ParserCall) (entries : List Classification) :
    Prop where
  answers : List.Forall₂ (Answers sql) calls entries
  unusable_last : ∀ call ∈ calls.dropLast, call.Usable
  bounded : calls.length ≤ byteLength sql

namespace ClassifyDerivation

variable {sql : List Char} {offset : Nat} {calls : List ParserCall} {entries : List Classification}

/-! ## Single entries -/

/-- A span from `offset` on. -/
structure IsSpan (sql : List Char) (offset : Nat) (entry : Classification) : Prop where
  after : offset ≤ entry.start
  nonempty : entry.start < entry.stop
  start : IsBoundary sql entry.start
  stop : IsBoundary sql entry.stop

theorem IsSpan.of_le {entry : Classification} {offset' : Nat} (h : IsSpan sql offset entry)
    (hle : offset' ≤ offset) : IsSpan sql offset' entry :=
  ⟨hle.trans h.after, h.nonempty, h.start, h.stop⟩

theorem isSpan_remainder {text : List Char} (hcut : sliceFrom? offset sql = some text)
    (hrest : skipTrivia text ≠ []) : IsSpan sql offset (remainder sql (offset + triviaLength text)) :=
  ⟨Nat.le_add_right _ _, (start_lt_iff hcut).mpr hrest, isBoundary_iff.mpr ⟨_, sliceFrom?_start hcut⟩,
    isBoundary_byteLength sql⟩

theorem isSpan_judged {text unit : List Char} {outcome : ParseOutcome}
    (hcut : sliceFrom? offset sql = some text)
    (husable : ParserCall.Usable ⟨skipTrivia text, outcome⟩) :
    IsSpan sql offset (judged outcome unit (offset + triviaLength text)) :=
  ⟨Nat.le_add_right _ _, Nat.lt_add_of_pos_right husable.progress,
    isBoundary_iff.mpr ⟨_, sliceFrom?_start hcut⟩, husable.boundary.add (sliceFrom?_start hcut)⟩

/-- Every span lies behind the offset where its part of the run begins. -/
theorem isSpan (h : ClassifyDerivation sql offset calls entries) :
    ∀ entry ∈ entries, IsSpan sql offset entry := by
  induction h with
  | done => exact fun _ h => (List.not_mem_nil h).elim
  | stuck hcut hrest hunusable =>
      intro entry hentry
      rw [List.mem_singleton.mp hentry]
      exact isSpan_remainder hcut hrest
  | step hcut hrest husable hunit _ ih =>
      intro entry hentry
      rcases List.mem_cons.mp hentry with rfl | hlater
      · exact isSpan_judged hcut husable
      · exact (ih entry hlater).of_le (by omega)

/-! ## All entries -/

theorem ordered (h : ClassifyDerivation sql offset calls entries) :
    entries.Pairwise fun entry later => entry.stop ≤ later.start := by
  induction h with
  | done => exact .nil
  | stuck => exact List.pairwise_singleton _ _
  | step hcut hrest husable hunit hlater ih =>
      exact List.pairwise_cons.mpr ⟨fun entry hentry => (hlater.isSpan entry hentry).after, ih⟩

theorem isTrivia_start {text : List Char} (hcut : sliceFrom? offset sql = some text) :
    IsTrivia sql offset (offset + triviaLength text) :=
  ⟨text, hcut, rfl⟩

theorem trivia (h : ClassifyDerivation sql offset calls entries) :
    ∀ gap ∈ gaps sql offset entries, IsTrivia sql gap.1 gap.2 := by
  induction h with
  | @done offset text hcut hrest =>
      have hend : offset + triviaLength text = byteLength sql := by
        have hlen := byteLength_of_sliceFrom? (sliceFrom?_start hcut)
        rw [hrest] at hlen
        exact hlen.symm
      intro gap hgap
      rw [List.mem_singleton.mp hgap, ← hend]
      exact isTrivia_start hcut
  | @stuck offset text outcome hcut hrest hunusable =>
      have hnothing : IsTrivia sql (byteLength sql) (byteLength sql) := by
        refine ⟨[], ?_, by simp⟩
        simpa using sliceFrom?_append sql []
      intro gap hgap
      rcases List.mem_cons.mp hgap with rfl | hgap
      · exact isTrivia_start hcut
      · rw [List.mem_singleton.mp hgap]
        exact hnothing
  | step hcut hrest husable hunit hlater ih =>
      intro gap hgap
      rcases List.mem_cons.mp hgap with rfl | hgap
      · exact isTrivia_start hcut
      · exact ih gap hgap

theorem answers (h : ClassifyDerivation sql offset calls entries) :
    List.Forall₂ (Answers sql) calls entries := by
  induction h with
  | done => exact .nil
  | stuck hcut hrest hunusable =>
      exact .cons ⟨sliceFrom?_start hcut, hrest, triviaLength_skipTrivia _,
        fun husable => absurd husable hunusable, fun _ => rfl⟩ .nil
  | step hcut hrest husable hunit hlater ih =>
      exact .cons ⟨sliceFrom?_start hcut, hrest, triviaLength_skipTrivia _,
        fun _ => ⟨_, hunit, rfl⟩, fun hunusable => absurd husable hunusable⟩ ih

theorem unusable_last (h : ClassifyDerivation sql offset calls entries) :
    ∀ call ∈ calls.dropLast, call.Usable := by
  induction h with
  | done => exact fun _ h => (List.not_mem_nil h).elim
  | stuck => exact fun _ h => (List.not_mem_nil h).elim
  | @step _ text outcome unit calls _ hcut hrest husable hunit hlater ih =>
      intro call hcall
      cases calls with
      | nil => exact (List.not_mem_nil hcall).elim
      | cons next calls =>
          rw [List.dropLast_cons_cons] at hcall
          rcases List.mem_cons.mp hcall with rfl | hcall
          · exact husable
          · exact ih call hcall

/-- Every call takes at least one byte away. -/
theorem length_le (h : ClassifyDerivation sql offset calls entries) :
    offset + calls.length ≤ byteLength sql := by
  induction h with
  | done hcut => exact (isBoundary_iff.mpr ⟨_, hcut⟩).le
  | stuck hcut hrest =>
      have hstart := (start_lt_iff hcut).mpr hrest
      rw [List.length_singleton]
      omega
  | @step _ _ outcome _ _ _ _ _ husable _ _ ih =>
      have hprogress : 0 < outcome.consumed := husable.progress
      rw [List.length_cons]
      omega

theorem tiles (h : ClassifyDerivation sql 0 calls entries) : Tiles sql entries where
  nonempty entry hentry := (h.isSpan entry hentry).nonempty
  inside entry hentry := (h.isSpan entry hentry).stop.le
  boundaries entry hentry := ⟨(h.isSpan entry hentry).start, (h.isSpan entry hentry).stop⟩
  ordered := h.ordered
  trivia := h.trivia

theorem asked (h : ClassifyDerivation sql 0 calls entries) : Asked sql calls entries where
  answers := h.answers
  unusable_last := h.unusable_last
  bounded := (Nat.zero_add _).symm.trans_le h.length_le

end ClassifyDerivation

/-- Classification ends for every parser and every query without a cut inside a character. Its spans
tile the query, and the calls it made are accounted for by its entries. -/
theorem classifyWith_tiles {σ : Type} (parse : List Char → StateM σ ParseOutcome) (sql : String)
    (s : σ) :
    ∃ entries calls s',
      classifyFrom (recorded parse) sql.toList 0 ([], s) = (some entries, calls, s') ∧
      classifyFrom parse sql.toList 0 s = (some entries, s') ∧
      classifyWith parse sql s = entries ∧
      Tiles sql.toList entries ∧ Asked sql.toList calls entries := by
  have hstart : IsBoundary sql.toList 0 := ⟨[], sql.toList, rfl, rfl⟩
  obtain ⟨entries, calls, s', hrecorded, hrun, hder, -⟩ :=
    classifyFrom_derivation parse sql.toList 0 hstart [] s
  exact ⟨entries, calls, s', hrecorded, hrun, classifyWith_of_run hrun, hder.tiles, hder.asked⟩

end Sluice
