import SearchQuery.Clause.Step
import SearchQuery.Request.Basic

/-!
# Putting a request together

What is done to a builder is data, so that whatever was done to it is a list of steps.
-/

namespace SearchQuery

namespace RequestBuilder

/-- What can be done to a builder. -/
inductive Step where
  | size (n : Int64)
  | start (n : Int64)
  | source (names : List String)
  | noSource (on : Bool)
  | addSort (key : SortKey)
  | setSort (key : SortKey)
  | addSorts (keys : List SortKey)
  /-- The boolean clause is another one. -/
  | buckets (clause : BooleanClause)
  /-- Something is done to the boolean clause. -/
  | fill (s : BooleanClause.Step)
  | collect (c : Clause)
  | direct (field value : String)

/-- The builder after a step. -/
def Step.apply (b : RequestBuilder) : Step → RequestBuilder
  | size n => { b with size := n }
  | start n => { b with start := n }
  | source names => { b with source := names }
  | noSource on => { b with noSource := on }
  | addSort key => b.addSort key
  | setSort key => b.setSort key
  | addSorts keys => b.addSorts keys
  | buckets clause => { b with buckets := clause }
  | fill s => { b with buckets := s.apply b.buckets }
  | collect c => { b with collector := b.collector.add c }
  | direct field value => { b with direct := some (field, value) }

/-- The builder after several steps. -/
def run (b : RequestBuilder) (steps : List Step) : RequestBuilder := steps.foldl Step.apply b

/-- The builder that several steps make of a fresh one. -/
def ofSteps (steps : List Step) : RequestBuilder := run {} steps

theorem ofSteps_append (steps steps' : List Step) :
    ofSteps (steps ++ steps') = run (ofSteps steps) steps' :=
  List.foldl_append

end RequestBuilder

end SearchQuery
