import Mathlib.Data.List.ReduceOption
import Sluice.Proofs.Outcome
import Sluice.Proofs.Sqlite.Changes
import Sluice.Sqlite.Connection

/-!
# Affected rows after any calls

The number that a connection reports for a statement is the engine's count, which outlives the
statement: after an insertion, an update or a deletion it is about this statement, after any other
it is still about the last one that changed rows.
-/

namespace Sluice.Sqlite

variable {σ π : Type}

/-! ## The count of an engine -/

/-- The count is about the most recently completed insertion, update or deletion, and other
statements leave it alone. `touched?` says how many rows an insertion, an update or a deletion
changes when it runs, and nothing about any other statement. -/
structure Engine.CountsChanges (engine : Engine σ π) (touched? : π → List Cell → σ → Option Nat) :
    Prop where
  prepare : ∀ sql s, engine.changes (engine.prepare sql s).2 = engine.changes s
  completed : ∀ p cells s n rows, touched? p cells s = some n →
    (engine.run p cells s).1 = .ok rows →
    engine.changes (engine.run p cells s).2 = UInt64.ofNat n
  other : ∀ p cells s, touched? p cells s = none →
    engine.changes (engine.run p cells s).2 = engine.changes s

namespace Connection

/-! ## Calls -/

/-- A call on a connection. -/
inductive Call where
  | execute (sql : String) (params : List Value)
  | query (sql : String) (params : List Value)

namespace Call

def sql : Call → String
  | execute sql _ | query sql _ => sql

def params : Call → List Value
  | execute _ params | query _ params => params

/-- The values as the engine gets them. -/
def cells (call : Call) : List Cell := call.params.map Cell.ofValue

/-- The connection after a call. -/
def run (engine : Engine σ π) (c : Connection σ) : Call → Connection σ
  | execute sql params => (c.execute engine sql params).2
  | query sql params => (c.query engine sql params).2

end Call

/-- The connection after some calls. -/
def after (engine : Engine σ π) (c : Connection σ) : List Call → Connection σ
  | [] => c
  | call :: calls => after engine (call.run engine c) calls

/-- What a statement is prepared to, and the state in which it runs. There is nothing to run on a
closed connection, or when the engine refuses the statement or its values. -/
def started? (engine : Engine σ π) (c : Connection σ) (sql : String) (params : List Value) :
    Option (π × σ) :=
  if c.closed then none
  else
    match engine.prepare sql c.state with
    | (.error _, _) => none
    | (.ok p, s) =>
      match engine.bind p (params.map Cell.ofValue) with
      | .error _ => none
      | .ok () => some (p, s)

section

variable (engine : Engine σ π) (touched? : π → List Cell → σ → Option Nat) (c : Connection σ)

/-- What a call leaves for a count if it runs an insertion, an update or a deletion: the number of
rows that were changed, or after a failure whatever the engine makes of it. -/
def Call.counted (call : Call) : Option UInt64 :=
  (c.started? engine call.sql call.params).bind fun (p, s) =>
    (touched? p call.cells s).map fun n =>
      match (engine.run p call.cells s).1 with
      | .ok _ => UInt64.ofNat n
      | .error _ => engine.changes (engine.run p call.cells s).2

/-- What each of some calls leaves for a count. -/
def counts (c : Connection σ) : List Call → List (Option UInt64)
  | [] => []
  | call :: calls => call.counted engine touched? c :: counts (call.run engine c) calls

/-- What the last of some calls that left a count left, or the count before them. -/
def lastCount (calls : List Call) : UInt64 :=
  ((counts engine touched? c calls).reduceOption.getLast?).getD (engine.changes c.state)

end

variable {engine : Engine σ π} {touched? : π → List Cell → σ → Option Nat} {c : Connection σ}
  {f : Failures} {sql : String} {params : List Value} {p : π} {s : σ}

/-! ## One call -/

theorem submit_of_none (hengine : engine.CountsChanges touched?)
    (h : c.started? engine sql params = none) :
    (∃ error, (c.submit engine f sql params).1 = .error error) ∧
      engine.changes (c.submit engine f sql params).2.state = engine.changes c.state := by
  rw [started?] at h
  rw [submit]
  by_cases hclosed : c.closed = true
  · rw [if_pos hclosed]
    exact ⟨⟨_, rfl⟩, rfl⟩
  · rw [if_neg hclosed] at h ⊢
    have hprepare := hengine.prepare sql c.state
    rcases hprepared : engine.prepare sql c.state with ⟨why | p, s⟩
    · rw [hprepared] at hprepare
      exact ⟨⟨_, rfl⟩, hprepare⟩
    · rw [hprepared] at h hprepare
      cases hbind : engine.bind p (params.map Cell.ofValue) with
      | error why =>
          simp only [hbind]
          exact ⟨⟨_, rfl⟩, hprepare⟩
      | ok => simp [hbind] at h

theorem submit_of_some (h : c.started? engine sql params = some (p, s)) :
    c.submit engine f sql params =
      (match (engine.run p (params.map Cell.ofValue) s).1 with
        | .ok rows => .ok (p, rows)
        | .error why => .error (.query (f.run why)),
      { c with state := (engine.run p (params.map Cell.ofValue) s).2 }) := by
  rw [started?] at h
  rw [submit]
  by_cases hclosed : c.closed = true
  · rw [if_pos hclosed] at h
    exact nomatch h
  · rw [if_neg hclosed] at h ⊢
    rcases hprepared : engine.prepare sql c.state with ⟨why | p', s'⟩
    · rw [hprepared] at h
      exact nomatch h
    · rw [hprepared] at h
      cases hbind : engine.bind p' (params.map Cell.ofValue) with
      | error why => simp [hbind] at h
      | ok =>
          simp only [hbind, Option.some.injEq, Prod.mk.injEq] at h
          obtain ⟨rfl, rfl⟩ := h
          rcases hrun : engine.run p' (params.map Cell.ofValue) s' with ⟨rows | why, state⟩ <;>
            simp only [hbind, hrun]

/-- The state that a statement runs in has the count of the connection. -/
theorem changes_of_started? (hengine : engine.CountsChanges touched?)
    (h : c.started? engine sql params = some (p, s)) :
    engine.changes s = engine.changes c.state := by
  have hprepare := hengine.prepare sql c.state
  rw [started?] at h
  split at h
  · exact nomatch h
  · split at h
    · exact nomatch h
    · next p' s' hprepared =>
        split at h
        · exact nomatch h
        · obtain ⟨rfl, rfl⟩ := Prod.mk.inj (Option.some.inj h)
          rwa [hprepared] at hprepare

/-- After a call, the count is the one that it left, or else the one before it. -/
theorem Call.changes_run (hengine : engine.CountsChanges touched?) (call : Call) :
    engine.changes (call.run engine c).state =
      (call.counted engine touched? c).getD (engine.changes c.state) := by
  obtain ⟨f, hrun⟩ : ∃ f, call.run engine c = (c.submit engine f call.sql call.params).2 := by
    cases call <;> exact ⟨_, rfl⟩
  rw [hrun, counted]
  cases hstarted : c.started? engine call.sql call.params with
  | none => exact (submit_of_none hengine hstarted).2
  | some started =>
      obtain ⟨p, s⟩ := started
      rw [submit_of_some hstarted]
      simp only [Option.bind_some]
      change engine.changes (engine.run p call.cells s).2 = _
      cases htouched : touched? p call.cells s with
      | none =>
          rw [hengine.other p call.cells s htouched]
          exact changes_of_started? hengine hstarted
      | some n =>
          rw [Option.map_some, Option.getD_some]
          split
          · next rows hok => exact hengine.completed p call.cells s n rows htouched hok
          · rfl

/-! ## Any calls -/

theorem changes_after (hengine : engine.CountsChanges touched?) (calls : List Call) :
    engine.changes (c.after engine calls).state = c.lastCount engine touched? calls := by
  induction calls generalizing c with
  | nil => rfl
  | cons call calls ih =>
      rw [after, ih, lastCount, lastCount, counts, call.changes_run hengine]
      -- without a count of its own, the call passes on the one it found
      cases call.counted engine touched? c with
      | none => rw [List.reduceOption_cons_of_none, Option.getD_none]
      | some n =>
          rw [List.reduceOption_cons_of_some, List.getLast?_cons, Option.getD_some,
            Option.getD_some]

/-! ## What a statement reports -/

/-- What a statement reports on a connection, `last` being the count that the calls before it
left. -/
structure Reports (engine : Engine σ π) (touched? : π → List Cell → σ → Option Nat) (last : UInt64)
    (c : Connection σ) (sql : String) (params : List Value) : Prop where
  /-- The statement succeeds if it is started and runs to its end. -/
  succeeds : (∃ n, (c.execute engine sql params).1 = .ok n) ↔
    ∃ p s rows, c.started? engine sql params = some (p, s) ∧
      (engine.run p (params.map Cell.ofValue) s).1 = .ok rows
  /-- An insertion, an update or a deletion reports the rows that it changed. -/
  changed : ∀ p s rows n, c.started? engine sql params = some (p, s) →
    touched? p (params.map Cell.ofValue) s = some rows →
    (c.execute engine sql params).1 = .ok n → n = UInt64.ofNat rows
  /-- Any other statement reports the count that it found. -/
  unchanged : ∀ p s n, c.started? engine sql params = some (p, s) →
    touched? p (params.map Cell.ofValue) s = none →
    (c.execute engine sql params).1 = .ok n → n = last

theorem execute_of_some (h : c.started? engine sql params = some (p, s)) (n : UInt64) :
    (c.execute engine sql params).1 = .ok n ↔
      (∃ rows, (engine.run p (params.map Cell.ofValue) s).1 = .ok rows) ∧
        n = engine.changes (engine.run p (params.map Cell.ofValue) s).2 := by
  rw [execute, submit_of_some h]
  cases (engine.run p (params.map Cell.ofValue) s).1 with
  | error why => simp [Except.map]
  | ok rows => simp [Except.map, eq_comm]

theorem execute_reports (hengine : engine.CountsChanges touched?) :
    Reports engine touched? (engine.changes c.state) c sql params where
  succeeds := by
    cases hstarted : c.started? engine sql params with
    | none =>
        obtain ⟨⟨error, herror⟩, -⟩ := submit_of_none
          (f := ⟨.prepareStatement, .executeStatement, .executeStatement⟩) hengine hstarted
        have hfails : (c.execute engine sql params).1 = .error error := by
          change Except.map _ (c.submit engine _ sql params).1 = _
          rw [herror]
          rfl
        simp [hfails]
    | some started =>
        obtain ⟨p, s⟩ := started
        simp [execute_of_some hstarted]
  changed := by
    intro p s rows n hstarted htouched hok
    obtain ⟨⟨returned, hruns⟩, rfl⟩ := (execute_of_some hstarted n).mp hok
    exact hengine.completed p _ s rows returned htouched hruns
  unchanged := by
    intro p s n hstarted htouched hok
    obtain ⟨-, rfl⟩ := (execute_of_some hstarted n).mp hok
    rw [hengine.other p _ s htouched]
    exact changes_of_started? hengine hstarted

/-- After any calls, and whatever the engine, an insertion, an update or a deletion reports the rows
that it changed, and any other statement the count of the last of these. -/
theorem reports_after (hengine : engine.CountsChanges touched?) (c : Connection σ)
    (calls : List Call) (sql : String) (params : List Value) :
    Reports engine touched? (c.lastCount engine touched? calls) (c.after engine calls) sql
      params := by
  rw [← changes_after hengine calls]
  exact execute_reports hengine

end Connection

/-! ## The embedded database -/

namespace Database

/-- How many rows a prepared statement is about. -/
def touchedBy? (p : Option Prepared) (cells : List Cell) (db : Database) : Option Nat :=
  p.bind fun p => db.touched? cells p.command

theorem engine_countsChanges : engine.CountsChanges touchedBy? where
  prepare sql db := by
    change UInt64.ofNat (prepare sql db).2.changes = _
    rw [prepare]
    split
    · rfl
    · rfl
    · split <;> rfl
  completed p cells db n rows htouched hok := by
    obtain ⟨p, rfl, htouched⟩ := Option.bind_eq_some_iff.mp htouched
    change (step (some p) cells db).1 = .ok rows at hok
    change UInt64.ofNat (db.run cells p.command).2.changes = _
    have hruns : (db.run cells p.command).1.isSome := by
      rw [step] at hok
      cases hrows : (db.run cells p.command).1 with
      | none =>
          simp only [hrows] at hok
          exact nomatch hok
      | some _ => rfl
    rw [changes_of_touched htouched hruns]
  other p cells db htouched := by
    cases p with
    | none => rfl
    | some p =>
        change UInt64.ofNat (db.run cells p.command).2.changes = UInt64.ofNat db.changes
        rw [changes_of_untouched htouched]

end Database

namespace Connection

/-- A new connection after a table was made and two rows were inserted. -/
def twoRows : Connection Database :=
  after Database.engine { state := {} }
    [.execute "CREATE TABLE t (a INTEGER)" [], .execute "INSERT INTO t VALUES (1), (2)" []]

theorem deletion_reports_deleted_rows :
    Database.engine.CountsChanges Database.touchedBy? ∧
      Reports Database.engine Database.touchedBy? 2 twoRows "DELETE FROM t WHERE a = 2" [] ∧
        (twoRows.execute Database.engine "DELETE FROM t WHERE a = 2" []).1 = .ok 1 := by
  have hreports := reports_after Database.engine_countsChanges { state := {} }
    [.execute "CREATE TABLE t (a INTEGER)" [], .execute "INSERT INTO t VALUES (1), (2)" []]
    "DELETE FROM t WHERE a = 2" []
  have hlast : lastCount Database.engine Database.touchedBy? { state := {} }
      [.execute "CREATE TABLE t (a INTEGER)" [], .execute "INSERT INTO t VALUES (1), (2)" []] =
        2 := by
    decide +kernel
  rw [hlast] at hreports
  exact ⟨Database.engine_countsChanges, hreports, by decide +kernel⟩

/-- A query changes no rows and reports the rows that were inserted before it. -/
theorem select_reports_inserted_rows :
    Database.engine.CountsChanges Database.touchedBy? ∧
      ((twoRows.started? Database.engine "SELECT 1" []).map fun (p, db) =>
        Database.touchedBy? p [] db) = some none ∧
      (twoRows.execute Database.engine "SELECT 1" []).1 = .ok 2 :=
  ⟨Database.engine_countsChanges, by decide +kernel, by decide +kernel⟩

end Connection

end Sluice.Sqlite
