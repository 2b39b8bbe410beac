import SearchQuery.Json.Numeral
import SearchQuery.Text.Quoted

/-!
# Why a query cannot be read

A text can be malformed; a value of the wrong kind, out of range or out of place is a fault of the
data, and has a message.
-/

namespace SearchQuery

open Json

/-- What was found where something else is wanted. -/
inductive Found where
  | null
  | bool (b : Bool)
  | number (n : Number)
  | string (s : String)
  | sequence
  | map

/-- How a message names what was found. -/
def Found.text : Found → String
  | null => "null"
  | bool true => "boolean `true`"
  | bool false => "boolean `false`"
  | number (.integer n) => s!"integer `{String.ofList (intText n)}`"
  | number (.float x) => s!"floating point `{String.ofList (Decimal.floatText x)}`"
  | string s => "string " ++ Text.quoted s
  | sequence => "sequence"
  | map => "map"

/-- The first fault met while reading. -/
inductive ReadError where
  /-- The text breaks the grammar, nests too deep, or holds a string or number without a value. -/
  | malformed
  | wrongKind (found : Found) (wanted : String)
  | outOfRange (n : Int) (wanted : String)
  | wrongLength (size : Nat) (wanted : String)
  /-- A variant in an object that does not have exactly one key. -/
  | notOneKey
  | unknownVariant (name : String) (known : List String)
  | duplicateField (name : String)
  | missingField (name : String)

/-- A name between backquotes. -/
def ticked (name : String) : String := s!"`{name}`"

namespace ReadError

/-- The alternatives of a variant: two are joined by a word, more follow an announcement. -/
def alternatives (names : List String) : String :=
  match names with
  | [a, b] => s!"{ticked a} or {ticked b}"
  | names => "one of " ++ ", ".intercalate (names.map ticked)

/-- The message of a fault of the data; a malformed text has none. -/
def message? : ReadError → Option String
  | malformed => none
  | wrongKind found wanted => some s!"invalid type: {found.text}, expected {wanted}"
  | outOfRange n wanted =>
    some s!"invalid value: {(Found.number (.integer n)).text}, expected {wanted}"
  | wrongLength size wanted => some s!"invalid length {size}, expected {wanted}"
  | notOneKey => some "invalid value: map, expected map with a single key"
  | unknownVariant name known =>
    some s!"unknown variant {ticked name}, expected {alternatives known}"
  | duplicateField name => some s!"duplicate field {ticked name}"
  | missingField name => some s!"missing field {ticked name}"

end ReadError

end SearchQuery
