import Sluice.Expr

/-!
# Plans and queries

A plan is a structured query over one table; a query is either a plan or native SQL with its
parameters.
-/

namespace Sluice

structure Projection where
  expr : Expr
  /-- The name of the column, when it is not left to the backend. -/
  label : Option String
deriving DecidableEq, Inhabited

structure TableRef where
  schema : Option String
  name : String
deriving DecidableEq, Inhabited

/-- A structured query. Without projections it selects every column. -/
structure Plan where
  source : TableRef
  projections : List Projection := []
  filter : Option Expr := none
  groupBy : List Expr := []
  limit : Option UInt64 := none
deriving DecidableEq, Inhabited

namespace Plan

def ofTable (name : String) : Plan := { source := ⟨none, name⟩ }

/-- Add a column to the result. -/
def project (p : Plan) (expr : Expr) (label : Option String) : Plan :=
  { p with projections := p.projections ++ [⟨expr, label⟩] }

/-- Keep the rows that satisfy a condition, in place of any earlier one. -/
def keep (p : Plan) (condition : Expr) : Plan := { p with filter := some condition }

def group (p : Plan) (expr : Expr) : Plan := { p with groupBy := p.groupBy ++ [expr] }

/-- Bound the number of rows. -/
def take (p : Plan) (limit : UInt64) : Plan := { p with limit := some limit }

end Plan

inductive Query where
  /-- SQL in the backend's own dialect, passed on as it is. -/
  | native (sql : String) (params : List Value)
  | plan (p : Plan)
deriving DecidableEq, Inhabited

namespace Query

def isNative : Query → Bool
  | native _ _ => true
  | plan _ => false

end Query

end Sluice
