import SearchQuery.Query.Basic

/-!
# The shapes of query data

Every type that a query is put together from, and how it is presented: which fields a record has
under which names, and what stands in for a field that is left out. The readers go by this
description alone.
-/

namespace SearchQuery

/-- The types that query data can have. -/
inductive Shape where
  | text
  | integer
  | count
  | groupOperator
  | sortDirection
  | policy
  | condition
  | group
  /-- A condition group, or `null` for none. -/
  | optionalGroup
  | sortKey
  | query
  | options
  | list (item : Shape)
  deriving DecidableEq, Repr

/-- The values of a shape. -/
@[reducible] def Shape.Carrier : Shape → Type
  | text => String
  | integer => Int64
  | count => UInt64
  | groupOperator => GroupOperator
  | sortDirection => SortDirection
  | policy => UnsupportedPolicy
  | condition => Condition
  | group => ConditionGroup
  | optionalGroup => Option ConditionGroup
  | sortKey => SortKey
  | query => Query
  | options => CompileOptions
  | list item => List item.Carrier

/-- A field of a record. Without a default it must be given. -/
structure Field where
  name : String
  aliases : List String := []
  shape : Shape
  default? : Option shape.Carrier := none

/-- A key names a field by its name or an alias. -/
def Field.answersTo (f : Field) (key : String) : Bool := key = f.name || f.aliases.contains key

/-- A value for each field. -/
@[reducible] def Values : List Field → Type
  | [] => Unit
  | f :: fs => f.shape.Carrier × Values fs

/-- How the values of a type are presented. -/
inductive Form (α : Type) where
  | text (make : String → α)
  | integer (make : Int64 → α)
  | count (make : UInt64 → α)
  /-- One of several names, in the order a message lists them. -/
  | choice (names : List (String × α))
  | list (item : Shape) (make : List item.Carrier → α)
  /-- A record, by its title in messages; `onNull` is what `null` stands for, if it may. -/
  | record (title : String) (onNull : Option α) (fields : List Field) (make : Values fields → α)

/-! ## The records -/

/-- The fields of a condition. -/
def Condition.fields : List Field :=
  [{ name := "field", shape := .text },
   { name := "type", aliases := ["operator"], shape := .text },
   { name := "operands", shape := .list .text, default? := some [] }]

/-- The fields of a condition group. -/
def ConditionGroup.fields : List Field :=
  [{ name := "operator", shape := .groupOperator, default? := some .and },
   { name := "conditions", shape := .list .condition, default? := some [] },
   { name := "groups", shape := .list .group, default? := some [] }]

/-- The fields of a sort key. -/
def SortKey.fields : List Field :=
  [{ name := "field", shape := .text },
   { name := "direction", shape := .sortDirection, default? := some .ascending }]

/-- The fields of a query. -/
def Query.fields : List Field :=
  [{ name := "columns", shape := .list .text, default? := some [] },
   { name := "size", shape := .integer, default? := some (-1) },
   { name := "offset", shape := .integer, default? := some 0 },
   { name := "sort_by", shape := .list .sortKey, default? := some [] },
   { name := "conditions", shape := .optionalGroup, default? := some none }]

/-- The fields of the compile options. -/
def CompileOptions.fields : List Field :=
  [{ name := "max_depth", shape := .count, default? := some 32 },
   { name := "on_unsupported", shape := .policy, default? := some .fail }]

/-- How the values of a shape are presented. -/
def Shape.form : (s : Shape) → Form s.Carrier
  | text => .text id
  | integer => .integer id
  | count => .count id
  | groupOperator => .choice [("AND", .and), ("and", .and), ("OR", .or), ("or", .or)]
  | sortDirection =>
    .choice [("ASC", .ascending), ("asc", .ascending), ("ascending", .ascending),
      ("DESC", .descending), ("desc", .descending), ("descending", .descending)]
  | policy => .choice [("fail", .fail), ("skip", .skip)]
  | condition =>
    .record "struct Condition" none Condition.fields fun (f, o, xs, ()) => ⟨f, o, xs⟩
  | group =>
    .record "struct ConditionGroup" none ConditionGroup.fields fun (o, cs, gs, ()) => ⟨o, cs, gs⟩
  | optionalGroup =>
    .record "struct ConditionGroup" (some none) ConditionGroup.fields
      fun (o, cs, gs, ()) => some ⟨o, cs, gs⟩
  | sortKey => .record "struct SortSpec" none SortKey.fields fun (f, d, ()) => ⟨f, d⟩
  | query =>
    .record "struct SimpleQuery" none Query.fields
      fun (columns, size, offset, sortBy, conditions, ()) =>
        ⟨columns, size, offset, sortBy, conditions⟩
  | options => .record "struct CompileOptions" none CompileOptions.fields fun (d, p, ()) => ⟨d, p⟩
  | list item => .list item id

end SearchQuery
