import Sluice.Expr.Document
import Sluice.Plan

/-!
# Plans and queries in documents

Plans, projections and tables are records with optional fields; a query is a tagged record whose
field `type` says whether it is native or a plan, the fields of the plan lying beside the tag.
-/

namespace Sluice

namespace Projection

def toJson (p : Projection) : Json :=
  .obj [("expr", p.expr.toJson), ("alias", Expr.optionJson p.label)]

def ofJson? (j : Json) : Option Projection := do
  let parts ← j.record? ["expr", "alias"]
  let expr ← Json.required? parts "expr" Expr.ofJson?
  let label ← Json.defaulted? parts "alias" none (Json.toOption? Json.toText?)
  return ⟨expr, label⟩

end Projection

namespace TableRef

def toJson (t : TableRef) : Json :=
  .obj [("schema", Expr.optionJson t.schema), ("name", .str t.name)]

def ofJson? (j : Json) : Option TableRef := do
  let parts ← j.record? ["schema", "name"]
  let schema ← Json.defaulted? parts "schema" none (Json.toOption? Json.toText?)
  let name ← Json.required? parts "name" Json.toText?
  return ⟨schema, name⟩

end TableRef

namespace Plan

def toFields (p : Plan) : List (String × Json) :=
  [("source", p.source.toJson),
   ("projections", .arr (p.projections.map Projection.toJson)),
   ("filter", (p.filter.map Expr.toJson).getD .null),
   ("group_by", .arr (p.groupBy.map Expr.toJson)),
   ("limit", (p.limit.map fun n => Json.int n.toNat).getD .null)]

def toJson (p : Plan) : Json := .obj p.toFields

def ofJson? (j : Json) : Option Plan := do
  let parts ← j.record? ["source", "projections", "filter", "group_by", "limit"]
  let source ← Json.required? parts "source" TableRef.ofJson?
  let projections ← Json.defaulted? parts "projections" [] (Json.toListOf? Projection.ofJson?)
  let filter ← Json.defaulted? parts "filter" none (Json.toOption? Expr.ofJson?)
  let groupBy ← Json.defaulted? parts "group_by" [] (Json.toListOf? Expr.ofJson?)
  let limit ← Json.defaulted? parts "limit" none (Json.toOption? Json.toUInt64?)
  return { source, projections, filter, groupBy, limit }

end Plan

namespace Query

def toJson : Query → Json
  | native sql params =>
    .obj [("type", .str "native"), ("sql", .str sql), ("params", .arr (params.map Value.toJson))]
  | plan p => .obj (("type", .str "plan") :: p.toFields)

def ofJson? (j : Json) : Option Query := do
  let (kind, body) ← j.tagged? "type"
  match kind with
  | "native" => do
    let parts ← body.record? ["sql", "params"]
    let sql ← Json.required? parts "sql" Json.toText?
    let params ← Json.defaulted? parts "params" [] (Json.toListOf? Value.ofJson?)
    return native sql params
  | "plan" => (Plan.ofJson? body).map plan
  | _ => none

end Query

end Sluice
