import SearchQuery.Compile.Group
import SearchQuery.Request.Writer

/-!
# From a query to a search request

The condition tree is compiled on its own and becomes the request's query; paging, sort order and
projection pass through the builder. A tree in which no condition is left matches everything.
-/

namespace SearchQuery

open Json

namespace Query

/-- Everything but the conditions; a size of zero counts as unset. -/
def builder (q : Query) : RequestBuilder :=
  { size := if 0 < q.size then q.size else -1
    start := q.offset
    source := q.columns
    sort := q.sortBy }

/-- Compiles a query. -/
def compile (options : CompileOptions) (q : Query) : Run CompileError SearchRequest := do
  let buckets ← match q.conditions with
    | none => pure {}
    | some g => g.compile options
  let request := RequestBuilder.build { q.builder with buckets }
  .report (.compiled ((q.conditions.map ConditionGroup.conditionCount).getD 0)
    request.sort.length request.query.kind)
  return request

/-- Compiles a query to the text of its request. -/
def compileText (l : Layout) (options : CompileOptions) (q : Query) :
    Run CompileError String := do
  let request ← q.compile options
  return request.text l

end Query

end SearchQuery
