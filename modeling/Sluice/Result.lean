import Sluice.Value

/-!
# Results of queries

A row pairs values with column names by position. Names may repeat, and the two lists may differ
in length.
-/

namespace Sluice

structure Row where
  columns : List String
  values : List Value
deriving DecidableEq, Inhabited

namespace Row

def get? (row : Row) (index : Nat) : Option Value := row.values[index]?

/-- The value at the position of the first column of that name. -/
def getByName? (row : Row) (name : String) : Option Value :=
  (row.columns.findIdx? (· == name)).bind row.get?

/-- Set a key of an association list: in place when it is there, at the end otherwise. -/
def setKey (key : String) (value : Value) : List (String × Value) → List (String × Value)
  | [] => [(key, value)]
  | (k, v) :: rest => if k == key then (k, value) :: rest else (k, v) :: setKey key value rest

/-- The row as a map from names to values; of equal names the last counts. -/
def toMap (row : Row) : List (String × Value) :=
  (row.columns.zip row.values).foldl (fun map (k, v) => setKey k v map) []

end Row

/-- What a backend says about a column of a result. -/
structure Column where
  name : String
  /-- The backend's own name of the type. -/
  dataType : String
  semanticType : SemanticType
  nullable : Bool
  ordinal : Nat
deriving DecidableEq, Inhabited

structure QueryResult where
  columns : List Column
  rows : List Row
  affected : UInt64
  warnings : List String
deriving DecidableEq, Inhabited

namespace QueryResult

/-- No columns, no rows. -/
def empty : QueryResult := ⟨[], [], 0, []⟩

def hasRows (r : QueryResult) : Bool := !r.rows.isEmpty

end QueryResult

end Sluice
