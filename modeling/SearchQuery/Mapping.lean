import SearchQuery.Json.Basic

/-!
# Field paths of a mapping

A mapping document says which fields an index has. Flattened, it is a list of dotted paths with
their types, in order and without repetition. What stands around the first `properties` object,
such as the names of indices, is passed through.
-/

namespace SearchQuery

open Json

/-- A typed field under its dotted path. -/
structure FieldPath where
  path : String
  type : String
  deriving DecidableEq, Repr

namespace FieldPath

/-- Ordered by path, then by type, each by code points. -/
def le (a b : FieldPath) : Bool :=
  a.path < b.path || (a.path = b.path && a.type ≤ b.type)

/-- A name below a path. -/
def join (above name : String) : String := if above = "" then name else above ++ "." ++ name

/-- The fields of a definition without properties of its own: if it has a type, itself, and
before it its keyword variant. -/
def ofLeaf (path : String) (definition : Value) : List FieldPath :=
  match (definition.get? "type").bind Value.string? with
  | none => []
  | some type =>
    let variant := (definition.get? "fields").bind (Value.get? "keyword")
    (if variant.isSome then [⟨path ++ ".keyword", "keyword"⟩] else []) ++ [⟨path, type⟩]

mutual
/-- The fields of a `properties` object below a path. -/
def ofProperties (above : String) : Value → List FieldPath
  | .object members => ofDefinitions above members
  | _ => []

/-- The fields of several named definitions. -/
def ofDefinitions (above : String) : List (String × Value) → List FieldPath
  | [] => []
  | (name, definition) :: rest =>
    ofDefinition (join above name) definition ++ ofDefinitions above rest

/-- The fields of one definition: those of its properties if it has any. -/
def ofDefinition (path : String) : Value → List FieldPath
  | .object members => (ofProperties? path members).getD (ofLeaf path (.object members))
  | _ => []

/-- The fields of the member `properties`, if there is one. -/
def ofProperties? (path : String) : List (String × Value) → Option (List FieldPath)
  | [] => none
  | (key, v) :: rest =>
    if key = "properties" then some (ofProperties path v) else ofProperties? path rest
end

mutual
/-- The fields of a document, as they are met. -/
def collect : Value → List FieldPath
  | .object members => (ofProperties? "" members).getD (collectAll members)
  | _ => []

/-- The fields of several documents. -/
def collectAll : List (String × Value) → List FieldPath
  | [] => []
  | (_, v) :: rest => collect v ++ collectAll rest
end

/-- The field paths of a mapping document, in order, each once. -/
def ofMapping (mapping : Value) : List FieldPath :=
  ((collect mapping).mergeSort le).eraseReps

/-! ## Starting further down -/

/-- The parts between the dots of a text. -/
def splitDots : List Char → List (List Char)
  | [] => [[]]
  | c :: cs =>
    if c = '.' then [] :: splitDots cs
    else match splitDots cs with
      | [] => [[c]]
      | part :: parts => (c :: part) :: parts

/-- The steps of a dotted path; empty parts are no steps. -/
def steps (path : String) : List String :=
  ((splitDots path.toList).filter (· ≠ [])).map String.ofList

/-- The value that a sequence of keys leads to. -/
def descend? (v : Value) : List String → Option Value
  | [] => some v
  | key :: rest => (v.get? key).bind fun w => descend? w rest

/-- The field paths of what a dotted path leads to; none if it leads nowhere. -/
def ofMappingAt (mapping : Value) (path : String) : List FieldPath :=
  match descend? mapping (steps path) with
  | some v => ofMapping v
  | none => []

end FieldPath

end SearchQuery
