import SearchQuery.Clause.Writer
import SearchQuery.Json.Printer
import SearchQuery.Request.Basic

/-!
# Requests as JSON

The keys of a request stand in a fixed order, and what is unset is left out.
-/

namespace SearchQuery

open Json

/-- A sort key in a request: the field names an object that holds the direction. -/
def SortKey.orderJson (k : SortKey) : Value :=
  .object [(k.field, .object [("order", .string k.direction.keyword)])]

/-- What is returned of a document; nothing is said for all of it. -/
def Projection.json? : Projection → Option Value
  | .all => none
  | .fields names => some (.strings names)
  | .noSource => some (.bool false)

namespace SearchRequest

/-- The body of a request. -/
def json (r : SearchRequest) : Value :=
  .object (optionalMember "size" (r.size.map fun n => .int n.toNat) ++
    optionalMember "from" (r.start.map fun n => .int n.toNat) ++
    optionalMember "_source" r.projection.json? ++
    listMember "sort" (r.sort.map SortKey.orderJson) ++
    [("query", r.query.json)])

/-- The text of a request. -/
def text (l : Layout) (r : SearchRequest) : String := r.json.text l

end SearchRequest

end SearchQuery
