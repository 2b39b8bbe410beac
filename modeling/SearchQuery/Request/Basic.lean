import SearchQuery.Clause.Basic
import SearchQuery.Query.Basic
import SearchQuery.Word

/-!
# Search requests

The body of a search request, and a builder that several sources of a query can fill in; the
strongest one that holds anything becomes the request's query.
-/

namespace SearchQuery

/-- Which part of a found document is returned. -/
inductive Projection where
  | all
  | fields (names : List String)
  | noSource
  deriving DecidableEq, Repr, Inhabited

/-- The body of a search request. -/
structure SearchRequest where
  size : Option UInt64 := none
  start : Option UInt64 := none
  projection : Projection := .all
  sort : List SortKey := []
  query : Clause := .matchAll
  deriving Repr, Inhabited

/-- What a request is put together from. A negative size, and an offset that is not positive, is
unset. -/
structure RequestBuilder where
  size : Int64 := -1
  start : Int64 := 0
  source : List String := []
  noSource : Bool := false
  sort : List SortKey := []
  buckets : BooleanClause := {}
  collector : Collector := {}
  /-- A field and the one value to match on it. -/
  direct : Option (String × String) := none
  deriving Repr, Inhabited

namespace RequestBuilder

/-- Adds a sort key behind the others. -/
def addSort (b : RequestBuilder) (key : SortKey) : RequestBuilder :=
  { b with sort := b.sort ++ [key] }

/-- Sorts by one key only. -/
def setSort (b : RequestBuilder) (key : SortKey) : RequestBuilder := { b with sort := [key] }

/-- Adds several sort keys in order. -/
def addSorts (b : RequestBuilder) (keys : List SortKey) : RequestBuilder :=
  { b with sort := b.sort ++ keys }

/-- Named fields win over the wish for no source. -/
def projection (b : RequestBuilder) : Projection :=
  if !b.source.isEmpty then .fields b.source
  else if b.noSource then .noSource
  else .all

/-- The buckets if one of them holds a clause, else the collected clauses, else the direct match,
else everything. -/
def query (b : RequestBuilder) : Clause :=
  if !b.buckets.isEmpty then .boolean b.buckets
  else if !b.collector.isEmpty then .boolean b.collector.conjunction
  else match b.direct with
    | some (field, value) => .matchField field value
    | none => .matchAll

/-- The request that has been built. -/
def build (b : RequestBuilder) : SearchRequest where
  size := natural? b.size
  start := (natural? b.start).filter (0 < ·)
  projection := b.projection
  sort := b.sort
  query := b.query

end RequestBuilder

/-! ## Standard requests -/

namespace SearchRequest

/-- How many documents are asked for by their ids at once. -/
def idPageSize : Int64 := 1000

/-- Which of these ids exist; no source is returned. -/
def ofIds (ids : List String) : SearchRequest :=
  RequestBuilder.build
    { size := idPageSize
      noSource := true
      buckets := (Collector.add {} (.terms "_id" ids)).conjunction }

/-- The document with this id. -/
def ofId (id : String) : SearchRequest :=
  RequestBuilder.build { direct := some ("_id", id) }

/-- All documents, a page of them. -/
def everything (size : Int64) : SearchRequest := RequestBuilder.build { size }

end SearchRequest

end SearchQuery
