/-!
# Structured queries

What a caller asks for, independent of any search engine: conditions on fields, joined in groups
that nest, and what to return of the documents found.
-/

namespace SearchQuery

/-- A condition on one field. The operator is a tag that has not been read yet. -/
structure Condition where
  field : String
  operator : String
  operands : List String := []
  deriving DecidableEq, Repr

namespace Condition

/-- The field equals a value. -/
def eq (field value : String) : Condition := ⟨field, "eq", [value]⟩

/-- The field lies between two values, both included. -/
def between (field low high : String) : Condition := ⟨field, "between", [low, high]⟩

end Condition

/-- How the direct conditions of a group are joined. -/
inductive GroupOperator where
  | and
  | or
  deriving DecidableEq, Repr, Inhabited

/-- The operator's keyword. -/
def GroupOperator.keyword : GroupOperator → String
  | and => "and"
  | or => "or"

/-- Conditions joined by one operator, and groups nested below them. -/
structure ConditionGroup where
  operator : GroupOperator := .and
  conditions : List Condition := []
  groups : List ConditionGroup := []
  deriving Repr, Inhabited

namespace ConditionGroup

/-- Induction over a group and the groups nested in it. -/
@[elab_as_elim, induction_eliminator]
theorem induction {motive : ConditionGroup → Prop}
    (group : ∀ operator conditions groups, (∀ g ∈ groups, motive g) →
      motive ⟨operator, conditions, groups⟩)
    (g : ConditionGroup) : motive g :=
  match g with
  | ⟨operator, conditions, groups⟩ =>
    group operator conditions groups fun nested _ => induction group nested

/-- Adds a condition at the end. -/
def addCondition (g : ConditionGroup) (c : Condition) : ConditionGroup :=
  { g with conditions := g.conditions ++ [c] }

/-- Adds a nested group at the end. -/
def addGroup (g nested : ConditionGroup) : ConditionGroup :=
  { g with groups := g.groups ++ [nested] }

/-- Neither conditions nor nested groups. -/
def isEmpty (g : ConditionGroup) : Bool := g.conditions.isEmpty && g.groups.isEmpty

/-- The conditions of a group and of every group below it. -/
def conditionCount : ConditionGroup → Nat
  | ⟨_, conditions, groups⟩ => conditions.length + countAll groups
where
  /-- The conditions of several groups. -/
  countAll : List ConditionGroup → Nat
    | [] => 0
    | g :: rest => g.conditionCount + countAll rest

end ConditionGroup

/-- The direction of a sort key. -/
inductive SortDirection where
  | ascending
  | descending
  deriving DecidableEq, Repr, Inhabited

/-- The direction's keyword. -/
def SortDirection.keyword : SortDirection → String
  | ascending => "asc"
  | descending => "desc"

/-- One key to sort by. -/
structure SortKey where
  field : String
  direction : SortDirection := .ascending
  deriving DecidableEq, Repr

/-- The key a text names: behind a leading minus it is descending. -/
def SortKey.ofText (text : String) : SortKey :=
  match text.toList with
  | '-' :: field => ⟨String.ofList field, .descending⟩
  | _ => ⟨text, .ascending⟩

/-- A whole query. A size or an offset that is not positive is unset. -/
structure Query where
  columns : List String := []
  size : Int64 := -1
  offset : Int64 := 0
  sortBy : List SortKey := []
  conditions : Option ConditionGroup := none
  deriving Repr, Inhabited

/-- What becomes of a condition whose operator has no clause. -/
inductive UnsupportedPolicy where
  /-- The compilation fails. -/
  | fail
  /-- The condition is dropped, with a warning. -/
  | skip
  deriving DecidableEq, Repr, Inhabited

/-- The policy's keyword. -/
def UnsupportedPolicy.keyword : UnsupportedPolicy → String
  | fail => "fail"
  | skip => "skip"

/-- The options of a compilation; the top group has depth 1. -/
structure CompileOptions where
  maxDepth : UInt64 := 32
  onUnsupported : UnsupportedPolicy := .fail
  deriving DecidableEq, Repr

instance : Inhabited CompileOptions := ⟨{}⟩

end SearchQuery
