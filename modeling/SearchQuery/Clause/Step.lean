import SearchQuery.Clause.Basic

/-!
# Filling a boolean clause

What is done to a boolean clause is data, so that whatever was done to it is a list of steps.
-/

namespace SearchQuery

/-- The buckets of a boolean clause. -/
inductive Bucket where
  | must
  | should
  | mustNot
  | filter
  deriving DecidableEq, Repr

namespace Buckets

variable {α : Type}

/-- What is in a bucket. -/
def get (b : Buckets α) : Bucket → List α
  | .must => b.must
  | .should => b.should
  | .mustNot => b.mustNot
  | .filter => b.filter

/-- Adds to a bucket. -/
def push (b : Buckets α) : Bucket → α → Buckets α
  | .must, a => b.pushMust a
  | .should, a => b.pushShould a
  | .mustNot, a => b.pushMustNot a
  | .filter, a => b.pushFilter a

/-- Empties a bucket; the minimum stays as it is. -/
def clear (b : Buckets α) : Bucket → Buckets α
  | .must => { b with must := [] }
  | .should => { b with should := [] }
  | .mustNot => { b with mustNot := [] }
  | .filter => { b with filter := [] }

/-- What is pushed to one bucket is in no other. -/
theorem get_push (b : Buckets α) (pushed bucket : Bucket) (a : α) :
    (b.push pushed a).get bucket = b.get bucket ++ if pushed = bucket then [a] else [] := by
  cases pushed <;> cases bucket <;> first | rfl | exact (List.append_nil _).symm

theorem get_clear (b : Buckets α) (cleared bucket : Bucket) :
    (b.clear cleared).get bucket = if cleared = bucket then [] else b.get bucket := by
  cases cleared <;> cases bucket <;> rfl

/-- Only a clause that should match comes with a minimum, and only if there is none. -/
theorem minimum_push (b : Buckets α) (pushed : Bucket) (a : α) :
    (b.push pushed a).minimum =
      if pushed = .should then some (b.minimum.getD 1) else b.minimum := by
  cases pushed <;> rfl

theorem minimum_clear (b : Buckets α) (cleared : Bucket) :
    (b.clear cleared).minimum = b.minimum := by
  cases cleared <;> rfl

end Buckets

namespace BooleanClause

/-- What can be done to a boolean clause. -/
inductive Step where
  | push (bucket : Bucket) (c : Clause)
  | setMinimum (n : Option UInt32)
  | clear (bucket : Bucket)
  /-- The clause becomes the only one that must match in a new one. -/
  | wrap

/-- The clause after a step. -/
def Step.apply (b : BooleanClause) : Step → BooleanClause
  | push bucket c => b.push bucket c
  | setMinimum n => { b with minimum := n }
  | clear bucket => b.clear bucket
  | wrap => Buckets.pushMust {} (.boolean b)

/-- The clause after several steps. -/
def run (b : BooleanClause) (steps : List Step) : BooleanClause := steps.foldl Step.apply b

/-- The clause that several steps make of an empty one. -/
def ofSteps (steps : List Step) : BooleanClause := run {} steps

theorem ofSteps_append (steps steps' : List Step) :
    ofSteps (steps ++ steps') = run (ofSteps steps) steps' :=
  List.foldl_append

end BooleanClause

end SearchQuery
