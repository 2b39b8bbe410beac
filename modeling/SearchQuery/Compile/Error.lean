import SearchQuery.Operator

/-!
# Why a query cannot be compiled

Only conditions and the nesting of groups can be at fault.
-/

namespace SearchQuery

/-- The reasons for which a compilation fails. -/
inductive CompileError where
  /-- The operator is unknown or has no clause; its tag is kept as it was given. -/
  | unsupported (field tag : String)
  | operandCount (field : String) (operator : Operator) (found : Nat)
  | tooDeep (limit : UInt64)
  deriving DecidableEq, Repr

namespace CompileError

/-- The error's message. -/
def message : CompileError → String
  | unsupported field tag => s!"unsupported operator '{tag}' on field '{field}'"
  | operandCount field operator found =>
    s!"operator '{operator.tag}' on field '{field}' expects {operator.arity} operand(s), " ++
      s!"found {found}"
  | tooDeep limit => s!"condition groups nested deeper than {limit} levels"

/-- The error comes from an operator without a clause. -/
def isUnsupported : CompileError → Bool
  | unsupported .. => true
  | _ => false

end CompileError

end SearchQuery
