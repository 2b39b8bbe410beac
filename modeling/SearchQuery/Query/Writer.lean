import SearchQuery.Query.Basic
import SearchQuery.Json.Basic

/-!
# Queries as JSON

Every field is written, in the order of its declaration, whether or not it has its default.
-/

namespace SearchQuery

open Json

/-- A condition; its operator stands under `type`. -/
def Condition.json (c : Condition) : Value :=
  .object [("field", .string c.field), ("type", .string c.operator),
    ("operands", .strings c.operands)]

/-- A group's operator. -/
def GroupOperator.json (o : GroupOperator) : Value := .string o.keyword

/-- A group with everything below it. -/
def ConditionGroup.json : ConditionGroup → Value
  | ⟨operator, conditions, groups⟩ =>
    .object [("operator", operator.json), ("conditions", .array (conditions.map Condition.json)),
      ("groups", .array (jsonAll groups))]
where
  /-- Several groups. -/
  jsonAll : List ConditionGroup → List Value
    | [] => []
    | g :: rest => g.json :: jsonAll rest

/-- A sort direction. -/
def SortDirection.json (d : SortDirection) : Value := .string d.keyword

/-- A sort key. -/
def SortKey.json (k : SortKey) : Value :=
  .object [("field", .string k.field), ("direction", k.direction.json)]

/-- A query; a missing condition tree is `null`. -/
def Query.json (q : Query) : Value :=
  .object [("columns", .strings q.columns), ("size", .int q.size.toInt),
    ("offset", .int q.offset.toInt), ("sort_by", .array (q.sortBy.map SortKey.json)),
    ("conditions", (q.conditions.map ConditionGroup.json).getD .null)]

/-- A policy. -/
def UnsupportedPolicy.json (p : UnsupportedPolicy) : Value := .string p.keyword

/-- The compile options. -/
def CompileOptions.json (o : CompileOptions) : Value :=
  .object [("max_depth", .int o.maxDepth.toNat), ("on_unsupported", o.onUnsupported.json)]

end SearchQuery
