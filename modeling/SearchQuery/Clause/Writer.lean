import SearchQuery.Clause.Basic
import SearchQuery.Json.Basic

/-!
# Clauses as JSON

Each kind has one rendering. What is absent or empty is left out, with two exceptions: terms and
fields are always listed, and a range without bounds is an empty object.
-/

namespace SearchQuery

open Json

/-- The bounds that are there. -/
def Bounds.json (b : Bounds) : Value :=
  .object (optionalMember "gte" (b.gte.map .string) ++ optionalMember "lte" (b.lte.map .string) ++
    optionalMember "gt" (b.gt.map .string) ++ optionalMember "lt" (b.lt.map .string))

/-- A clause as JSON. A minimum counts only beside clauses that should match, an empty fuzziness
is none. -/
def Clause.json : Clause → Value
  | .matchAll => .object [("match_all", .object [])]
  | .matchField field value => .object [("match", .object [(field, .string value)])]
  | .range field bounds => .object [("range", .object [(field, bounds.json)])]
  | .terms field values => .object [("terms", .object [(field, .strings values)])]
  | .multiMatch text fields fuzziness =>
    .object [("multi_match", .object
      ([("query", .string text), ("fields", .strings fields)] ++
        optionalMember "fuzziness" ((fuzziness.filter (· ≠ "")).map .string)))]
  | .present field => .object [("exists", .object [("field", .string field)])]
  | .boolean ⟨must, should, mustNot, filter, minimum⟩ =>
    let least := if should.isEmpty then none else minimum
    .object [("bool", .object
      (listMember "must" (jsonAll must) ++ listMember "should" (jsonAll should) ++
        optionalMember "minimum_should_match" (least.map fun n => .int n.toNat) ++
        listMember "must_not" (jsonAll mustNot) ++ listMember "filter" (jsonAll filter)))]
where
  /-- Several clauses. -/
  jsonAll : List Clause → List Value
    | [] => []
    | c :: rest => c.json :: jsonAll rest

theorem Clause.jsonAll_eq_map (clauses : List Clause) :
    json.jsonAll clauses = clauses.map json :=
  eq_map_of_cons rfl (fun _ _ => rfl) clauses

end SearchQuery
