import SearchQuery.Json.Token
import SearchQuery.Json.Tree

/-!
# Reading a value from a text

A text denotes a value if it is well formed, has no more containers open at once than allowed,
and its strings and numbers denote something. Of members with one key the last one counts, at the
place of the first.
-/

namespace SearchQuery.Json

mutual
/-- The value of a tree with at most `room` containers open at once. -/
def Tree.value? : Nat → Tree → Option Value
  | _, .null => some .null
  | _, .bool b => some (.bool b)
  | _, .number n => n.map .number
  | _, .string s => s.map .string
  | room + 1, .array items => (items.values? room []).map .array
  | room + 1, .object members => (members.values? room []).map .object
  | 0, .array _ => none
  | 0, .object _ => none
  | _, .broken => none

/-- The values of an array's items behind those before them, newest first. -/
def Items.values? : Nat → List Value → Items → Option (List Value)
  | _, before, .closed => some before.reverse
  | _, _, .cut => none
  | room, before, .item t rest =>
    match t.value? room with
    | some v => rest.values? room (v :: before)
    | none => none

/-- The members of an object, put in among those before them. -/
def Members.values? : Nat → List (String × Value) → Members → Option (List (String × Value))
  | _, before, .closed => some before
  | _, _, .cut => none
  | _, _, .misnamed _ => none
  | room, before, .member key t rest =>
    match key, t.value? room with
    | some k, some v => rest.values? room (setMember k v before)
    | _, _ => none
end

/-- The reading of a text. -/
def Reading.ofText (text : String) : Reading :=
  .ofTokens (scan text.toList)

/-- The value of a whole text with at most `room` containers open at once. -/
def Value.ofText? (room : Nat) (text : String) : Option Value :=
  let reading := Reading.ofText text
  if reading.ended then reading.tree.value? room else none

/-- As many containers as a text from outside may have open at once. -/
def maxOpen : Nat := 127

end SearchQuery.Json
