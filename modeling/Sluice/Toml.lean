import Sluice.Binary64
import Sluice.NameMap

/-!
# Configuration documents

The tree of a TOML document, and the tables under construction while one is read. A table may be
opened by a header once, extended by dotted keys only where dotted keys made it, and a value is
closed for good.
-/

namespace Sluice

inductive Toml where
  | str (s : String)
  | int (n : Int)
  | float (x : Binary64)
  | bool (b : Bool)
  /-- A date, a time or both, as written. -/
  | moment (text : String)
  | arr (items : List Toml)
  | table (entries : List (String × Toml))
deriving Inhabited

namespace Toml

/-- An entry of a table under construction. -/
inductive Node where
  | value (v : Toml)
  /-- A table; `opened` by a header of its own, or made by `dotted` keys. -/
  | table (opened dotted : Bool) (entries : List (String × Node))
  /-- Tables opened by double-bracketed headers, the latest first. -/
  | tables (latest : List (String × Node)) (earlier : List (List (String × Node)))
deriving Inhabited

abbrev Entries := List (String × Node)

def Entries.replace (entries : Entries) (key : String) (node : Node) : Entries :=
  entries.map fun (k, n) => if k = key then (k, node) else (k, n)

/-- Change the table at the end of a path, making tables on the way. By dotted keys, tables that
headers opened are out of reach; `change` is told whether dotted keys made the table. -/
def descend (byDots : Bool) (change : (dotted : Bool) → Entries → Option Entries) :
    (path : List String) → (dotted : Bool) → Entries → Option Entries
  | [], dotted, entries => change dotted entries
  | key :: path, _, entries =>
    match entries.lookup key with
    | none => do
      let inner ← descend byDots change path byDots []
      return entries ++ [(key, .table false byDots inner)]
    | some (.value _) => none
    | some (.tables latest earlier) => do
      let inner ← descend byDots change path false latest
      return entries.replace key (.tables inner earlier)
    | some (.table opened dotted inner) =>
      if byDots && opened then none
      else do
        let inner ← descend byDots change path dotted inner
        return entries.replace key (.table opened dotted inner)

def openTable (path : List String) (key : String) (root : Entries) : Option Entries :=
  descend false (fun _ entries =>
    match entries.lookup key with
    | none => some (entries ++ [(key, .table true false [])])
    | some (.table false false inner) => some (entries.replace key (.table true false inner))
    | some _ => none) path false root

/-- Add a table to the array that a header names. -/
def addTable (path : List String) (key : String) (root : Entries) : Option Entries :=
  descend false (fun _ entries =>
    match entries.lookup key with
    | none => some (entries ++ [(key, .tables [] [])])
    | some (.tables latest earlier) => some (entries.replace key (.tables [] (latest :: earlier)))
    | some _ => none) path false root

/-- Set a key, reached by dotted keys from the table at hand. -/
def setKey (path : List String) (key : String) (v : Toml) (entries : Entries) : Option Entries :=
  descend true (fun dotted inner =>
    if dotted = path.isEmpty then none
    else if (inner.lookup key).isSome then none
    else some (inner ++ [(key, .value v)])) path false entries

mutual

def Node.finish : Node → Toml
  | .value v => v
  | .table _ _ entries => .table (finishEntries entries)
  | .tables latest earlier => .arr (finishTables earlier (.table (finishEntries latest) :: []))

def finishEntries : List (String × Node) → List (String × Toml)
  | [] => []
  | (key, node) :: rest => (key, node.finish) :: finishEntries rest

/-- Finished tables in the order of the document, before those already finished. -/
def finishTables : List (List (String × Node)) → List Toml → List Toml
  | [], done => done
  | entries :: rest, done => finishTables rest (.table (finishEntries entries) :: done)

end

/-! ## Access -/

def toText? : Toml → Option String
  | str s => some s
  | _ => none

def toBool? : Toml → Option Bool
  | bool b => some b
  | _ => none

def toNat? : Toml → Option Nat
  | int n => if 0 ≤ n then some n.toNat else none
  | _ => none

/-- The elements of an array, all readable. -/
def toListOf? (read : Toml → Option α) : Toml → Option (List α)
  | arr items => items.mapM read
  | _ => none

/-- The entries of a table, all readable. -/
def toMapOf? (read : Toml → Option α) : Toml → Option (NameMap α)
  | table entries => do
    let entries ← entries.mapM fun (key, v) => (read v).map fun a => (key, a)
    return .ofEntries entries
  | _ => none

/-- The parts of a record by name, given as a table or as an array in the declared order. -/
def record? (names : List String) : Toml → Option (List (String × Toml))
  | table entries => some entries
  | arr items => if items.length ≤ names.length then some (names.zip items) else none
  | _ => none

def required? (parts : List (String × Toml)) (name : String) (read : Toml → Option α) :
    Option α := (parts.lookup name).bind read

def defaulted? (parts : List (String × Toml)) (name : String) (default : α)
    (read : Toml → Option α) : Option α :=
  match parts.lookup name with
  | some v => read v
  | none => some default

end Toml

end Sluice
