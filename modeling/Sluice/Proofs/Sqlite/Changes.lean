import Mathlib.Data.List.Basic
import Mathlib.Data.Option.Basic
import Sluice.Sqlite.Embedded

/-!
# Counts of the embedded database

Its count of changed rows is about the last insertion, update or deletion that ran. A table that
others may refer to is emptied before it is dropped, which is a deletion too.
-/

namespace Sluice.Sqlite.Database

/-- Commands that change the rows of a table. -/
def IsChange : Command → Prop
  | .insert _ _ _ | .update _ _ _ | .delete _ _ => True
  | _ => False

variable {db before after : Database} {t t' : Table} {params : List Cell} {command : Command}
  {name : String} {n : Nat}

/-! ## Rows that a command is about -/

/-- The rows that a condition accepts. -/
def accepted (db : Database) (params : List Cell) (name : String) (condition : Option Term) :
    List StoredRow :=
  ((db.table? name).map fun t =>
    t.rows.filter fun r => (Scope.mk (some t.shape) r params).accepts condition).getD []

/-- Whether a table is emptied before it is dropped, because others may refer to it. -/
def empties (db : Database) (t : Table) : Bool := db.enforced && !(db.referencesTo t).isEmpty

/-- How many rows an insertion, an update or a deletion is about, also one that comes with another
command; nothing if there is none. -/
def touched? (db : Database) (params : List Cell) : Command → Option Nat
  | .insert _ _ rows => some rows.length
  | .update name _ condition | .delete name condition =>
    some (db.accepted params name condition).length
  | .dropTable name _ => ((db.table? name).filter db.empties).map (·.rows.length)
  | .select _ _ _ | .createTable _ _ | .pragma _ _ => none

/-! ## Insertions, updates and deletions -/

/-- The table that a change makes, and how many rows it counts. -/
def changed? (db : Database) (params : List Cell) : Command → Option (Table × Nat)
  | .insert name columns rows => do
    let t ← db.table? name
    let t ← t.addAll? columns (rows.map fun row => row.map (Scope.mk none default params).eval)
    return (t, rows.length)
  | .update name changes condition => do
    let t ← db.table? name
    t.change? params changes condition
  | .delete name condition => do
    let t ← db.table? name
    let kept := t.rows.filter fun r => !(Scope.mk (some t.shape) r params).accepts condition
    return ({ t with rows := kept }, t.rows.length - kept.length)
  | _ => none

/-- A change returns no rows. -/
theorem run_of_isChange (h : IsChange command) : db.run params command =
    (if (db.write (db.changed? params command)).1 then some [] else none,
      (db.write (db.changed? params command)).2) := by
  cases command with
  | insert | update | delete => rfl
  | _ => exact h.elim

theorem eq_of_commit (h : before.commit after = some db) : db = after := by
  rw [commit] at h
  split at h
  · exact nomatch h
  · exact (Option.some.inj h).symm

/-- A change that is made is counted. -/
theorem changes_of_write {change : Option (Table × Nat)} (h : (db.write change).1 = true) :
    ∃ t, change = some (t, (db.write change).2.changes) := by
  cases change with
  | none => exact nomatch h
  | some p =>
      obtain ⟨t, n⟩ := p
      cases hcommit : db.commit (db.withTable t) with
      | none => simp [write, hcommit] at h
      | some after => exact ⟨t, by simp [write, hcommit]⟩

/-- A change counts the rows that it is about. -/
theorem touched?_of_changed? (h : db.changed? params command = some (t', n)) :
    db.touched? params command = some n := by
  cases command with
  | insert =>
      simp only [changed?, Option.bind_eq_bind, Option.bind_eq_some_iff] at h
      obtain ⟨_, -, _, -, heq⟩ := h
      exact congrArg some (Prod.mk.inj (Option.some.inj heq)).2
  | update =>
      simp only [changed?, Option.bind_eq_bind, Option.bind_eq_some_iff, Table.change?,
        Option.map_eq_some_iff] at h
      obtain ⟨t, ht, _, -, heq⟩ := h
      rw [touched?, accepted, ht]
      exact congrArg some (Prod.mk.inj heq).2
  | delete _ condition =>
      simp only [changed?, Option.bind_eq_bind, Option.bind_eq_some_iff] at h
      obtain ⟨t, ht, heq⟩ := h
      have hparts := (List.filter_append_perm
        (fun r => (Scope.mk (some t.shape) r params).accepts condition) t.rows).length_eq
      rw [List.length_append] at hparts
      rw [touched?, accepted, ht, ← (Prod.mk.inj (Option.some.inj heq)).2, Option.map_some,
        Option.getD_some, Option.some_inj]
      omega
  | _ => exact nomatch h

/-! ## Other commands -/

theorem changes_dropTable {ifPresent : Bool} (ht : db.table? name = some t) :
    (db.run params (.dropTable name ifPresent)).2.changes =
      if db.empties t then
        if (db.run params (.dropTable name ifPresent)).1.isSome then t.rows.length else 0
      else db.changes := by
  simp only [run, ht]
  cases hcommit : db.commit
      { db with tables := db.tables.filter (·.shape.name ≠ t.shape.name) } with
  | none =>
      rw [empties]
      simp only [apply_ite Database.changes]
      rfl
  | some after =>
      obtain rfl := eq_of_commit hcommit
      rw [empties]
      simp only [apply_ite Database.changes]
      rfl

/-- No switch touches the count. -/
theorem changes_pragma {value : Option String} :
    (db.run params (.pragma name value)).2.changes = db.changes := by
  have hswitch : ∀ s ∈ switches, ∀ b, (s.2.2 db b).changes = db.changes := by
    intro s hs b
    simp only [switches, List.mem_cons, List.not_mem_nil, or_false] at hs
    obtain rfl | rfl := hs <;> rfl
  cases hfind : switches.find? fun s => Text.eqIgnoreCase s.1 name with
  | none => simp only [run, hfind]
  | some s =>
      cases value with
      | none => simp only [run, hfind]
      | some v =>
          have hput := hswitch s (List.mem_of_find?_eq_some hfind) (switchOf v)
          simpa only [run, hfind] using hput

theorem changes_createTable {shape : TableShape} {ifMissing : Bool} :
    (db.run params (.createTable shape ifMissing)).2.changes = db.changes := by
  rw [run]
  split
  · rfl
  · split
    · next after hcommit =>
        obtain rfl := eq_of_commit hcommit
        rfl
    · rfl

/-! ## All commands -/

/-- A command that succeeds counts the rows that it is about. -/
theorem changes_of_touched (h : db.touched? params command = some n)
    (hruns : (db.run params command).1.isSome) : (db.run params command).2.changes = n := by
  have hchange : IsChange command → (db.run params command).2.changes = n := by
    intro hchange
    rw [run_of_isChange hchange] at hruns ⊢
    have hmade : (db.write (db.changed? params command)).1 = true := by
      by_contra hfails
      simp [hfails] at hruns
    obtain ⟨t, ht⟩ := changes_of_write hmade
    exact Option.some.inj ((touched?_of_changed? ht).symm.trans h)
  cases command with
  | insert | update | delete => exact hchange trivial
  | dropTable name =>
      obtain ⟨t, ht, rfl⟩ := Option.map_eq_some_iff.mp h
      obtain ⟨ht, hempties⟩ := Option.filter_eq_some_iff.mp ht
      rw [changes_dropTable ht, if_pos hempties, if_pos hruns]
  | _ => exact nomatch h

/-- A command that is about no rows leaves the count alone. -/
theorem changes_of_untouched (h : db.touched? params command = none) :
    (db.run params command).2.changes = db.changes := by
  cases command with
  | select => rfl
  | createTable => exact changes_createTable
  | pragma => exact changes_pragma
  | dropTable name ifPresent =>
      cases ht : db.table? name with
      | none => rw [run, ht]
      | some t =>
          rw [touched?, ht, Option.map_eq_none_iff, Option.filter_eq_none_iff] at h
          rw [changes_dropTable ht, if_neg (h t rfl)]
  | _ => exact nomatch h

end Sluice.Sqlite.Database
