import SearchQuery.Compile.Condition
import SearchQuery.Run

/-!
# From a condition group to a boolean clause

The direct conditions of a group all have to match, or one of them has to, as its operator says.
Nested groups always have to match, whatever either operator is.
-/

namespace SearchQuery

/-- The clauses of a group's direct conditions, without those that the policy drops. -/
def compileConditions (policy : UnsupportedPolicy) :
    List Condition → Run CompileError (List Clause)
  | [] => pure []
  | c :: rest =>
    match c.clause with
    | .ok clause => do
      let clauses ← compileConditions policy rest
      return clause :: clauses
    | .error e =>
      if e.isUnsupported ∧ policy = .skip then do
        .report (.skipped c.field c.operator)
        compileConditions policy rest
      else .fail e

/-- The buckets of a group: its direct clauses by its operator, then its nested groups. -/
def GroupOperator.join (o : GroupOperator) (direct : List Clause) (nested : List BooleanClause) :
    BooleanClause :=
  match o with
  | and => { must := direct ++ nested.map .boolean }
  | or =>
    { must := nested.map .boolean
      should := direct
      minimum := if direct.isEmpty then none else some 1 }

namespace ConditionGroup

/-- Compiles a group that stands at a depth of nesting. -/
def compileAt (options : CompileOptions) (depth : Nat) :
    ConditionGroup → Run CompileError BooleanClause
  | ⟨operator, conditions, groups⟩ =>
    if options.maxDepth.toNat < depth then .fail (.tooDeep options.maxDepth)
    else do
      let direct ← compileConditions options.onUnsupported conditions
      let nested ← compileNested options (depth + 1) groups
      return operator.join direct nested
where
  /-- Compiles the groups nested in one, which stand at the next depth. -/
  compileNested (options : CompileOptions) (depth : Nat) :
      List ConditionGroup → Run CompileError (List BooleanClause)
    | [] => pure []
    | g :: rest => do
      .report (.entered depth g.operator)
      let clause ← g.compileAt options depth
      let clauses ← compileNested options depth rest
      return clause :: clauses

/-- Compiles a group on its own. -/
def compile (options : CompileOptions) (g : ConditionGroup) : Run CompileError BooleanClause :=
  g.compileAt options 1

end ConditionGroup

end SearchQuery
