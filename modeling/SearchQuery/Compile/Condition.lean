import SearchQuery.Compile.Error

/-!
# From a condition to a clause

Whether the operator has a clause is asked before its operands are counted.
-/

namespace SearchQuery

/-- An empty operand of a range leaves that end open. -/
def bound (operand : String) : Option String := if operand = "" then none else some operand

/-- What an operator makes of its operands. -/
inductive Template where
  | one (clause : String → Clause)
  | two (clause : String → String → Clause)

/-- The clauses that an operator stands for on a field. -/
def Operator.template? (field : String) : Operator → Option Template
  | eq | contains => some (.one fun v => .matchField field v)
  | between =>
    some (.two fun low high => .range field { gte := bound low, lte := bound high })
  | lt => some (.one fun v => .range field { lt := bound v })
  | lte => some (.one fun v => .range field { lte := bound v })
  | gt => some (.one fun v => .range field { gt := bound v })
  | gte => some (.one fun v => .range field { gte := bound v })
  | neq | hasKey => none

/-- An operator has a template exactly if it is supported. -/
theorem Operator.isSome_template? (field : String) (o : Operator) :
    (o.template? field).isSome = o.isSupported := by
  cases o <;> rfl

/-- The clause of a condition. -/
def Condition.clause (c : Condition) : Except CompileError Clause :=
  match Operator.ofTag? c.operator with
  | none => .error (.unsupported c.field c.operator)
  | some o =>
    match o.template? c.field, c.operands with
    | none, _ => .error (.unsupported c.field c.operator)
    | some (.one make), [v] => .ok (make v)
    | some (.two make), [v, w] => .ok (make v w)
    | some _, operands => .error (.operandCount c.field o operands.length)

end SearchQuery
