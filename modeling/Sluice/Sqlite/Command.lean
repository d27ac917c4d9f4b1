import Sluice.Sqlite.Token

/-!
# Commands of the embedded database

Terms and commands as they are read, before names are looked up.
-/

namespace Sluice.Sqlite

inductive Operator where
  | or | and | eq | notEq | is | isNot | less | lessEq | greater | greaterEq
  | plus | minus | times | divide | modulo | concat
deriving DecidableEq, Inhabited

inductive Term where
  | literal (c : Cell)
  /-- Parameters count from one. -/
  | parameter (index : Nat)
  | column (table : Option String) (name : String) (double : Bool)
  /-- A truth value by its name. -/
  | truth (b : Bool)
  | negate (t : Term)
  | not (t : Term)
  | binary (op : Operator) (a b : Term)
  | cast (declared : String) (t : Term)
  /-- A function of one argument. -/
  | call (name : String) (t : Term)
deriving DecidableEq, Inhabited

inductive Output where
  | all
  | item (t : Term) (label : Option String) (source : String)
deriving DecidableEq, Inhabited

/-- A reference to a key of another table. -/
structure Reference where
  /-- The position of the referring column. -/
  field : Nat
  table : String
  /-- The referred column; the primary key if none is named. -/
  column : Option String
deriving DecidableEq, Inhabited

structure Field where
  name : String
  declared : String
  notNull : Bool := false
  default : Cell := .null
deriving DecidableEq, Inhabited

def Field.affinity (f : Field) : Affinity := .ofDeclared f.declared

structure TableShape where
  name : String
  fields : List Field
  /-- Positions of the primary key. -/
  primary : List Nat := []
  /-- Further keys without duplicates. -/
  uniques : List (List Nat) := []
  references : List Reference := []
deriving DecidableEq, Inhabited

inductive Command where
  | select (outputs : List Output) (table : Option String) (condition : Option Term)
  | createTable (shape : TableShape) (ifMissing : Bool)
  | dropTable (name : String) (ifPresent : Bool)
  | insert (table : String) (columns : Option (List String)) (rows : List (List Term))
  | update (table : String) (changes : List (String × Term)) (condition : Option Term)
  | delete (table : String) (condition : Option Term)
  | pragma (name : String) (value : Option String)
deriving DecidableEq, Inhabited

end Sluice.Sqlite
