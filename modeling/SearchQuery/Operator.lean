import SearchQuery.Clause.Basic
import SearchQuery.Query.Basic
import SearchQuery.Text.Spelling

/-!
# Operators and the tags that name them

A tag is read without the blanks around it and whatever the case of its letters. Some operators
are known but have no clause.
-/

namespace SearchQuery

open Text

/-- The operators of a condition. -/
inductive Operator where
  | eq
  | neq
  | contains
  | between
  | lt
  | lte
  | gt
  | gte
  | hasKey
  deriving DecidableEq, Repr, Inhabited

namespace Operator

/-- The tag in its canonical spelling. -/
def tag : Operator → String
  | eq => "eq"
  | neq => "neq"
  | contains => "contains"
  | between => "between"
  | lt => "lt"
  | lte => "lte"
  | gt => "gt"
  | gte => "gte"
  | hasKey => "?"

/-- Every operator. -/
def all : List Operator := [eq, neq, contains, between, lt, lte, gt, gte, hasKey]

/-- The operator with this tag. -/
def ofTag? (tag : String) : Option Operator :=
  let spelled := lower (trim tag.toList)
  all.find? fun o => o.tag.toList = spelled

/-- Every operator is read back from its tag. -/
theorem ofTag?_tag (o : Operator) : ofTag? o.tag = some o := by cases o <;> decide

/-- How many operands it takes. -/
def arity : Operator → Nat
  | between => 2
  | _ => 1

/-- There is a clause for it. -/
def isSupported : Operator → Bool
  | neq | hasKey => false
  | _ => true

end Operator

/-- The group operator that a text names, blanks and case aside. -/
def GroupOperator.ofText? (text : String) : Option GroupOperator :=
  let spelled := lower (trim text.toList)
  [and, or].find? fun o => o.keyword.toList = spelled

/-- The policy that a text names, case aside; blanks count. -/
def UnsupportedPolicy.ofText? (text : String) : Option UnsupportedPolicy :=
  let spelled := lower text.toList
  [fail, skip].find? fun p => p.keyword.toList = spelled

/-- Every group operator is read back from its keyword. -/
theorem GroupOperator.ofText?_keyword (o : GroupOperator) : ofText? o.keyword = some o := by
  cases o <;> decide

/-- Every policy is read back from its keyword. -/
theorem UnsupportedPolicy.ofText?_keyword (p : UnsupportedPolicy) : ofText? p.keyword = some p := by
  cases p <;> decide

/-- The message for a text that names no group operator. -/
def GroupOperator.unknown (text : String) : String := s!"unknown group operator: {text}"

/-- The message for a text that names no policy. -/
def UnsupportedPolicy.unknown (text : String) : String :=
  s!"unknown unsupported-operator policy: {text}"

end SearchQuery
