import Sluice.Expr
import Sluice.Value.Document

/-!
# Expressions in documents

An expression is a tagged record; the field `kind` names its form.
-/

namespace Sluice.Expr

/-- An optional text; none is null. -/
def optionJson : Option String → Json
  | some s => .str s
  | none => .null

def toJson : Expr → Json
  | literal value => .obj [("kind", .str "literal"), ("value", value.toJson)]
  | column table name =>
    .obj [("kind", .str "column_ref"), ("table", optionJson table), ("name", .str name)]
  | truncate unit expr =>
    .obj [("kind", .str "temporal_truncate"), ("unit", .str unit.name), ("expr", toJson expr)]
  | intervalAdd unit amount expr =>
    .obj [("kind", .str "interval_add"), ("unit", .str unit.name), ("amount", toJson amount),
      ("expr", toJson expr)]
  | cast target expr =>
    .obj [("kind", .str "cast"), ("target_type", .str target.name), ("expr", toJson expr)]
  | unary function arg =>
    .obj [("kind", .str "unary_fn"), ("name", .str function), ("arg", toJson arg)]
  | binary op left right =>
    .obj [("kind", .str "binary_op"), ("op", .str op.name), ("left", toJson left),
      ("right", toJson right)]

/-- Read an expression whose document is nested less than `fuel` deep. -/
def read : (fuel : Nat) → Json → Option Expr
  | 0, _ => none
  | fuel + 1, j => do
    let (kind, body) ← j.tagged? "kind"
    match kind with
    | "literal" => do
      let parts ← body.record? ["value"]
      let value ← Json.required? parts "value" Value.ofJson?
      return literal value
    | "column_ref" => do
      let parts ← body.record? ["table", "name"]
      let table ← Json.defaulted? parts "table" none (Json.toOption? Json.toText?)
      let name ← Json.required? parts "name" Json.toText?
      return column table name
    | "temporal_truncate" => do
      let parts ← body.record? ["unit", "expr"]
      let unit ← Json.required? parts "unit" fun j => j.bareName?.bind TruncateUnit.ofName?
      let expr ← Json.required? parts "expr" (read fuel)
      return truncate unit expr
    | "interval_add" => do
      let parts ← body.record? ["unit", "amount", "expr"]
      let unit ← Json.required? parts "unit" fun j => j.bareName?.bind IntervalUnit.ofName?
      let amount ← Json.required? parts "amount" (read fuel)
      let expr ← Json.required? parts "expr" (read fuel)
      return intervalAdd unit amount expr
    | "cast" => do
      let parts ← body.record? ["target_type", "expr"]
      let target ← Json.required? parts "target_type" fun j =>
        j.bareName?.bind SemanticType.ofName?
      let expr ← Json.required? parts "expr" (read fuel)
      return cast target expr
    | "unary_fn" => do
      let parts ← body.record? ["name", "arg"]
      let name ← Json.required? parts "name" Json.toText?
      let arg ← Json.required? parts "arg" (read fuel)
      return unary name arg
    | "binary_op" => do
      let parts ← body.record? ["op", "left", "right"]
      let op ← Json.required? parts "op" fun j => j.bareName?.bind BinaryOperator.ofName?
      let left ← Json.required? parts "left" (read fuel)
      let right ← Json.required? parts "right" (read fuel)
      return binary op left right
    | _ => none

def ofJson? (j : Json) : Option Expr := read (j.depth + 1) j

end Sluice.Expr
