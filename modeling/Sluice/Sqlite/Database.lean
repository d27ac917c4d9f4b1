import Sluice.Calendar.Timestamp
import Sluice.Sqlite.Reader

/-!
# The embedded database

Tables in memory, and what commands do to them. A command is checked before it runs; a command that
fails while it runs leaves all tables as they were.
-/

namespace Sluice.Sqlite

open Text

structure StoredRow where
  number : Int
  cells : List Cell
deriving DecidableEq, Inhabited

/-- A table; its rows are in the order of their numbers. -/
structure Table where
  shape : TableShape
  rows : List StoredRow := []
deriving DecidableEq, Inhabited

/-- A database and the settings of the one connection to it. -/
structure Database where
  tables : List Table := []
  /-- Whether references to other tables are enforced. -/
  enforced : Bool := true
  /-- Whether writing is refused. -/
  queryOnly : Bool := false
  /-- How many rows the last insertion, update or deletion changed. -/
  changes : Nat := 0
deriving DecidableEq, Inhabited

/-! ## Names -/

/-- The column whose values are the numbers of the rows. -/
def TableShape.numberField? (s : TableShape) : Option Nat :=
  match s.primary with
  | [i] => if ((s.fields[i]?).map (·.declared)) = some "INTEGER" then some i else none
  | _ => none

def TableShape.fieldIndex? (s : TableShape) (name : String) : Option Nat :=
  s.fields.findIdx? fun f => eqIgnoreCase f.name name

/-- Whether a name stands for the number of a row. -/
def isNumberName (name : String) : Bool :=
  ["rowid", "oid", "_rowid_"].any fun n => eqIgnoreCase n name

def Database.table? (db : Database) (name : String) : Option Table :=
  db.tables.find? fun t => eqIgnoreCase t.shape.name name

/-- Put a table in the place of the one with its name. -/
def Database.withTable (db : Database) (t : Table) : Database :=
  { db with tables := db.tables.map fun u => if u.shape.name = t.shape.name then t else u }

/-! ## Terms -/

/-- What a column of a term refers to. -/
inductive Target where
  | field (f : Field) (i : Nat)
  | number
  | constant (s : String)

/-- Look up a column; a name in double quotes that is no column is a text. -/
def lookUp (shape : Option TableShape) (table : Option String) (name : String) (double : Bool) :
    Option Target :=
  let found : Option Target := do
    let s ← shape
    guard (table.all fun t => eqIgnoreCase t s.name)
    match s.fieldIndex? name with
    | some i => (s.fields[i]?).map fun f => .field f i
    | none => if isNumberName name then some .number else none
  match found with
  | some t => some t
  | none => if double && table.isNone then some (.constant name) else none

def functions : List String := ["date", "length", "typeof"]

namespace Term

def isKnown (shape : Option TableShape) : Term → Bool
  | literal _ => true
  | truth _ => true
  | parameter _ => true
  | column table name double => (lookUp shape table name double).isSome
  | negate t => t.isKnown shape
  | not t => t.isKnown shape
  | binary _ a b => a.isKnown shape && b.isKnown shape
  | cast _ t => t.isKnown shape
  | call f t => functions.any (eqIgnoreCase f) && t.isKnown shape

/-- The affinity that a term passes on to what it is compared with. -/
def affinity? (shape : Option TableShape) : Term → Option Affinity
  | column table name double =>
    match lookUp shape table name double with
    | some (.field f _) => some f.affinity
    | some .number => some .integer
    | _ => none
  | cast declared _ => some (.ofDeclared declared)
  | _ => none

end Term

structure Scope where
  shape : Option TableShape := none
  row : StoredRow := default
  parameters : List Cell := []

/-- An integer result, or a real when it is out of range. -/
def integerOrReal (n : Int) (x : Binary64) : Cell := (Cell.integer? n).getD (.ofReal x)

/-- Arithmetic on two numbers; null with null, and for a division by zero. -/
def arithmetic (op : Operator) (a b : Cell) : Cell :=
  match a.toNumber, b.toNumber with
  | .null, _ => .null
  | _, .null => .null
  | .integer m, .integer n =>
    let (m, n) := (m.toInt, n.toInt)
    let (x, y) := (Binary64.ofInt m, Binary64.ofInt n)
    match op with
    | .plus => integerOrReal (m + n) (x.add y)
    | .minus => integerOrReal (m - n) (x.add y.neg)
    | .times => integerOrReal (m * n) (x.mul y)
    | .divide => if n = 0 then .null else integerOrReal (m.tdiv n) (x.divFinite y)
    | _ => if n = 0 then .null else .integer (.ofInt (m.tmod n))
  | m, n =>
    let (x, y) := (m.toReal, n.toReal)
    match op with
    | .plus => .ofReal (x.add y)
    | .minus => .ofReal (x.add y.neg)
    | .times => .ofReal (x.mul y)
    | .divide => if y.magnitude = 0 then .null else .ofReal (x.div y)
    | _ => if b.toWhole = 0 then .null else .ofReal (.ofInt (a.toWhole.tmod b.toWhole))

/-- Compare two cells after each took the other's affinity where it has none of its own. -/
def comparison (aa ab : Option Affinity) (a b : Cell) : Ordering :=
  let adapt (own other : Option Affinity) (c : Cell) : Cell :=
    if other.any (·.isNumeric) && !own.any (·.isNumeric) then c.coerce .numeric
    else if other = some .text && own.isNone then c.coerce .text
    else c
  (adapt aa ab a).order (adapt ab aa b)

/-- Combine two truth values: `absorbing` decides alone, null only leaves things open. -/
def combineTruth (absorbing : Bool) (a b : Option Bool) : Option Bool :=
  if a = some absorbing || b = some absorbing then some absorbing
  else if a.isNone || b.isNone then none
  else some !absorbing

def operate (op : Operator) (aa ab : Option Affinity) (a b : Cell) : Cell :=
  let compared (p : Ordering → Bool) : Cell :=
    if a = .null || b = .null then .null else .ofTruth (some (p (comparison aa ab a b)))
  let same : Bool := if a = .null || b = .null then a = b else comparison aa ab a b == .eq
  match op with
  | .or => .ofTruth (combineTruth true a.truth? b.truth?)
  | .and => .ofTruth (combineTruth false a.truth? b.truth?)
  | .eq => compared (· == .eq)
  | .notEq => compared (· != .eq)
  | .is => .ofTruth (some same)
  | .isNot => .ofTruth (some !same)
  | .less => compared (· == .lt)
  | .lessEq => compared (· != .gt)
  | .greater => compared (· == .gt)
  | .greaterEq => compared (· != .lt)
  | .concat =>
    match a.toText?, b.toText? with
    | some s, some t => .text (s ++ t)
    | _, _ => .null
  | op => arithmetic op a b

/-- Convert a cell to a type, at any loss. -/
def castTo (declared : String) (c : Cell) : Cell :=
  match c, Affinity.ofDeclared declared with
  | .null, _ => .null
  | c, .text => ((c.toText?).map .text).getD .null
  | c, .none => .blob (utf8 ((c.toText?).getD ""))
  | c, .real => .real c.toNumber.toReal
  | c, .integer => .integer (.ofInt c.toWhole)
  | .integer n, _ => .integer n
  | .real x, _ => .real x
  | c, _ => c.toNumber.coerce .numeric

def dateOf? (s : String) : Option Date := do
  let cs := s.toList
  let day := String.ofList (cs.take 10)
  let time := cs.drop 10
  guard (day.length = 10 && (time.isEmpty || time.head? = some ' ' || time.head? = some 'T'))
  if time.isEmpty then Date.parse? day
  else
    let _ ← TimeOfDay.parse? (String.ofList (time.drop 1))
    Date.parse? day

def apply (f : String) (c : Cell) : Cell :=
  match lowerAscii f, c with
  | "typeof", .null => .text "null"
  | "typeof", .integer _ => .text "integer"
  | "typeof", .real _ => .text "real"
  | "typeof", .text _ => .text "text"
  | "typeof", .blob _ => .text "blob"
  | "length", .null => .null
  | "length", .blob bs => .integer (.ofInt bs.length)
  | "length", c => .integer (.ofInt ((c.toText?).getD "").length)
  | _, c => (((c.toText?).bind dateOf?).map fun d => .text d.render).getD .null

def Scope.eval (s : Scope) : Term → Cell
  | .literal c => c
  | .truth b => .ofTruth (some b)
  | .parameter i => (s.parameters[i - 1]?).getD .null
  | .column table name double =>
    match lookUp s.shape table name double with
    | some (.field _ i) => (s.row.cells[i]?).getD .null
    | some .number => .integer (.ofInt s.row.number)
    | some (.constant t) => .text t
    | none => .null
  | .negate t => arithmetic .minus (.integer 0) (s.eval t)
  | .not t => .ofTruth ((s.eval t).truth?.map (!·))
  | .binary .is a (.truth b) => .ofTruth (some ((s.eval a).truth? = some b))
  | .binary .isNot a (.truth b) => .ofTruth (some ((s.eval a).truth? ≠ some b))
  | .binary op a b => operate op (a.affinity? s.shape) (b.affinity? s.shape) (s.eval a) (s.eval b)
  | .cast declared t => castTo declared (s.eval t)
  | .call f t => apply f (s.eval t)

/-- Whether a condition holds; without one, every row is meant. -/
def Scope.accepts (s : Scope) (condition : Option Term) : Bool :=
  condition.all fun t => (s.eval t).truth? = some true

/-! ## Checks before a command runs -/

/-- The position that a reference refers to, if that column is a key of its table. -/
def Reference.key? (r : Reference) (parent : TableShape) : Option Nat :=
  match r.column with
  | none =>
    match parent.primary with
    | [i] => some i
    | _ => none
  | some c => do
    let i ← parent.fieldIndex? c
    guard (parent.primary = [i] || parent.uniques.contains [i])
    return i

namespace Database

def referencesTo (db : Database) (t : Table) : List Reference :=
  (db.tables.flatMap (·.shape.references)).filter fun r => eqIgnoreCase r.table t.shape.name

def hasKey (db : Database) (r : Reference) : Bool :=
  (db.table? r.table).any fun parent => (r.key? parent.shape).isSome

/-- Whether the references that an insertion has to look at have keys to refer to. A single row
cannot break a reference to its table. -/
def insertionFits (db : Database) (t : Table) (count : Nat) : Bool :=
  !db.enforced || (t.shape.references.all db.hasKey &&
    (count ≤ 1 || (db.referencesTo t).all db.hasKey))

/-- Whether the references that a deletion has to look at have keys to refer to. -/
def deletionFits (db : Database) (t : Table) : Bool :=
  !db.enforced || (t.shape.references.all db.hasKey && (db.referencesTo t).all db.hasKey)

/-- Whether the references that a change of columns has to look at have keys to refer to. A table
that refers to itself is looked at with every change that matters at all. -/
def changeFits (db : Database) (t : Table) (changed : List Nat) : Bool :=
  let refers (r : Reference) : Bool := changed.contains r.field
  let referred (r : Reference) : Bool :=
    match r.column with
    | some c => (t.shape.fieldIndex? c).any changed.contains
    | none => t.shape.primary.any changed.contains
  !db.enforced ||
    !(t.shape.references.any refers || (db.referencesTo t).any referred) ||
    (t.shape.references.all (fun r =>
      !(refers r || eqIgnoreCase r.table t.shape.name) || db.hasKey r) &&
    (db.referencesTo t).all fun r => !referred r || db.hasKey r)

/-- Whether a command can run at all: its names are known and its lists fit together. -/
def check (db : Database) : Command → Bool
  | .select outputs table condition =>
    let shape := (table.bind db.table?).map (·.shape)
    (table.isNone || shape.isSome) &&
      outputs.all (fun
        | .all => shape.isSome
        | .item t _ _ => t.isKnown shape) &&
      condition.all (·.isKnown shape)
  | .createTable shape ifMissing =>
    !(shape.name.toList.take 7 |> String.ofList |> eqIgnoreCase "sqlite_") &&
      (ifMissing || (db.table? shape.name).isNone)
  | .dropTable name ifPresent => ifPresent || (db.table? name).isSome
  | .insert table columns rows =>
    (db.table? table).any fun t =>
      let width := match columns with
        | some cs => cs.length
        | none => t.shape.fields.length
      (columns.getD []).all (fun c => (t.shape.fieldIndex? c).isSome) &&
        rows.all (fun row => row.length = width && row.all (·.isKnown none)) &&
        db.insertionFits t rows.length
  | .update table changes condition =>
    (db.table? table).any fun t =>
      changes.all (fun (c, e) => (t.shape.fieldIndex? c).isSome && e.isKnown (some t.shape)) &&
        condition.all (·.isKnown (some t.shape)) &&
        db.changeFits t (changes.filterMap fun (c, _) => t.shape.fieldIndex? c)
  | .delete table condition =>
    (db.table? table).any fun t => condition.all (·.isKnown (some t.shape)) && db.deletionFits t
  | .pragma _ _ => true

/-! ## Effects -/

/-- Whether a row refers to a key that is not there. -/
def dangles (db : Database) (r : Reference) (row : StoredRow) : Bool :=
  match (row.cells[r.field]?).getD .null with
  | .null => false
  | c =>
    match (db.table? r.table).bind fun p => (r.key? p.shape).map fun i => (p, i) with
    | none => true
    | some (parent, i) =>
      let c := c.coerce (((parent.shape.fields[i]?).map (·.affinity)).getD .none)
      !parent.rows.any fun q => ((q.cells[i]?).getD .null).order c == .eq

/-- The rows of a table that refer to nothing, once for each such reference. -/
def danglingOf (db : Database) (t : Table) : List StoredRow :=
  t.shape.references.flatMap fun r => t.rows.filter (db.dangles r)

/-- How many references lead nowhere. -/
def dangling (db : Database) : Nat := (db.tables.flatMap db.danglingOf).length

end Database

namespace Table

/-- Whether two rows agree in a key; null agrees with nothing. -/
def sameKey (key : List Nat) (a b : List Cell) : Bool :=
  key.all fun i =>
    let (x, y) := ((a[i]?).getD .null, (b[i]?).getD .null)
    x != .null && y != .null && x.order y == .eq

/-- Put a row among the others, in the order of the numbers. -/
def place (row : StoredRow) : List StoredRow → List StoredRow
  | [] => [row]
  | r :: rest => if row.number < r.number then row :: r :: rest else r :: place row rest

def nextNumber (t : Table) : Int := ((t.rows.getLast?).map (·.number + 1)).getD 1

/-- Add a row of converted cells unless a constraint forbids it. -/
def add? (t : Table) (number : Int) (cells : List Cell) : Option Table := do
  let cells := (t.shape.fields.zip cells).map fun (f, c) => c.coerce f.affinity
  let (number, cells) ← match t.shape.numberField? with
    | none => some (number, cells)
    | some i =>
      match (cells[i]?).getD .null with
      | .null => some (number, cells.set i (.integer (.ofInt number)))
      | .integer n => some (n.toInt, cells)
      | _ => none
  guard ((t.shape.fields.zip cells).all fun (f, c) => !(f.notNull && c = .null))
  guard (t.rows.all fun r => r.number ≠ number)
  let keys := (if t.shape.primary.isEmpty then [] else [t.shape.primary]) ++ t.shape.uniques
  guard (keys.all fun key => t.rows.all fun r => !sameKey key r.cells cells)
  return { t with rows := place ⟨number, cells⟩ t.rows }

def addAll? (t : Table) (columns : Option (List String)) (rows : List (List Cell)) : Option Table :=
  rows.foldlM (fun t row =>
    let cells := match columns with
      | none => row
      | some names => (t.shape.fields.zipIdx).map fun (f, i) =>
        (((names.map t.shape.fieldIndex?).zip row).reverse.lookup (some i)).getD f.default
    t.add? t.nextNumber cells) t

/-- Change one row; every new value is computed from the row as it was. -/
def changeRow? (t : Table) (parameters : List Cell) (changes : List (String × Term))
    (r : StoredRow) : Option Table :=
  let scope : Scope := ⟨some t.shape, r, parameters⟩
  let put (cells : List Cell) (change : String × Term) : List Cell :=
    match t.shape.fieldIndex? change.1 with
    | some i => cells.set i (scope.eval change.2)
    | none => cells
  let others : Table := { t with rows := t.rows.filter (·.number ≠ r.number) }
  others.add? r.number (changes.foldl put r.cells)

/-- Change the accepted rows one after the other, and count them. -/
def change? (t : Table) (parameters : List Cell) (changes : List (String × Term))
    (condition : Option Term) : Option (Table × Nat) :=
  let accepted := t.rows.filter fun r => (Scope.mk (some t.shape) r parameters).accepts condition
  (accepted.foldlM (fun (t : Table) r => t.changeRow? parameters changes r) t).map
    fun t => (t, accepted.length)

end Table

/-- Read a switch: a number, or a word. -/
def switchOf (s : String) : Bool :=
  match s.toList with
  | c :: rest =>
    if c.isDigit then
      ((c :: rest).takeWhile Char.isDigit).foldl (fun n d => n * 10 + (d.toNat - 48)) 0 % 256 ≠ 0
    else ["on", "yes", "true"].any fun w => eqIgnoreCase w s
  | [] => false

/-- The settings that can be switched, with how to read and to write them. -/
def switches : List (String × (Database → Bool) × (Database → Bool → Database)) :=
  [("query_only", fun db => db.queryOnly, fun db b => { db with queryOnly := b }),
    ("foreign_keys", fun db => db.enforced, fun db b => { db with enforced := b })]

namespace Database

/-- Names and declared types of the columns that a command returns; none for computed ones. -/
def columns (db : Database) : Command → List (String × Option String)
  | .select outputs table _ =>
    let shape := (table.bind db.table?).map (·.shape)
    let declared (f : Field) : Option String := if f.declared.isEmpty then none else some f.declared
    outputs.flatMap fun
      | .all => (shape.map fun s => s.fields.map fun f => (f.name, declared f)).getD []
      | .item (.column table name double) label source =>
        match lookUp shape table name double with
        | some (.field f _) => [(label.getD f.name, declared f)]
        | some .number => [(label.getD "rowid", some "INTEGER")]
        | _ => [(label.getD source, none)]
      | .item _ label source => [(label.getD source, none)]
  | .pragma name none =>
    ((switches.find? fun (n, _) => eqIgnoreCase n name).map fun (n, _) => (n, none)).toList
  | _ => []

/-- Accept a change of the tables unless writing is refused or references would be left dangling. -/
def commit (before after : Database) : Option Database :=
  if before.queryOnly || (before.enforced && before.dangling < after.dangling) then none
  else some after

def selectRows (db : Database) (parameters : List Cell) (outputs : List Output)
    (table : Option String) (condition : Option Term) : List (List Cell) :=
  let t := table.bind db.table?
  let rows := match t with
    | some t => t.rows
    | none => [default]
  let scope (r : StoredRow) : Scope := ⟨t.map (·.shape), r, parameters⟩
  (rows.filter fun r => (scope r).accepts condition).map fun r => outputs.flatMap fun
    | .all => r.cells
    | .item e _ _ => [(scope r).eval e]

/-- Replace a table by what a change made of it, and count the changed rows. A failed change counts
none. -/
def write (db : Database) (change : Option (Table × Nat)) : Bool × Database :=
  match change.bind fun (t, n) => (db.commit (db.withTable t)).map fun db => (db, n) with
  | some (db, n) => (true, { db with changes := n })
  | none => (false, { db with changes := 0 })

/-- Run a checked command: the rows it returns, none if it failed, and the database afterwards. A
table that others may refer to is emptied before it is dropped, which counts its rows as
changed. -/
def run (db : Database) (parameters : List Cell) : Command → Option (List (List Cell)) × Database
  | .select outputs table condition => (some (db.selectRows parameters outputs table condition), db)
  | .createTable shape _ =>
    if (db.table? shape.name).isSome then (some [], db)
    else
      match db.commit { db with tables := db.tables ++ [⟨shape, []⟩] } with
      | some db => (some [], db)
      | none => (none, db)
  | .dropTable name _ =>
    match db.table? name with
    | none => (some [], db)
    | some t =>
      let emptied : Bool := db.enforced && !(db.referencesTo t).isEmpty
      match db.commit { db with tables := db.tables.filter (·.shape.name ≠ t.shape.name) } with
      | some after => (some [], if emptied then { after with changes := t.rows.length } else after)
      | none => (none, if emptied then { db with changes := 0 } else db)
  | .insert table columns rows =>
    let scope : Scope := ⟨none, default, parameters⟩
    let (done, db) := db.write (do
      let t ← db.table? table
      let t ← t.addAll? columns (rows.map fun row => row.map scope.eval)
      return (t, rows.length))
    (if done then some [] else none, db)
  | .update table changes condition =>
    let (done, db) := db.write (do
      let t ← db.table? table
      t.change? parameters changes condition)
    (if done then some [] else none, db)
  | .delete table condition =>
    let (done, db) := db.write (do
      let t ← db.table? table
      let kept := t.rows.filter fun r => !(Scope.mk (some t.shape) r parameters).accepts condition
      return ({ t with rows := kept }, t.rows.length - kept.length))
    (if done then some [] else none, db)
  | .pragma name value =>
    match switches.find? fun (n, _) => eqIgnoreCase n name, value with
    | some (_, _, put), some v => (some [], put db (switchOf v))
    | some (_, get, _), none => (some [[.ofTruth (some (get db))]], db)
    | none, _ => (some [], db)

end Database

end Sluice.Sqlite
