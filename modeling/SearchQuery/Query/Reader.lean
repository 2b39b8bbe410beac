import SearchQuery.Json.Reader
import SearchQuery.Query.ReadError
import SearchQuery.Query.Shape

/-!
# Reading query data

One reader serves every shape and both places that data comes from: a text, read from the left up
to the first fault, or a value that is part of a larger one. A record is an object or an array of
its fields in order; a choice is its name, or an object with that name as its only key and `null`
under it.
-/

namespace SearchQuery

open Json

/-- Where the data comes from. -/
inductive Origin where
  /-- A text, in which this many more containers may be opened. -/
  | text (room : Nat)
  /-- A finished value. -/
  | value
  deriving DecidableEq, Repr

/-- Opens a container. -/
def Origin.enter : Origin → Except ReadError Origin
  | text 0 => .error .malformed
  | text (room + 1) => .ok (text room)
  | value => .ok value

/-! ## Faults -/

/-- What a message calls a tree; `none` if the text breaks there. -/
def Json.Tree.found? : Tree → Option Found
  | .null => some .null
  | .bool b => some (.bool b)
  | .number n => n.map .number
  | .string s => s.map .string
  | .array _ => some .sequence
  | .object _ => some .map
  | .broken => none

/-- The fault of a tree where something else is wanted. -/
def Json.Tree.unwanted (t : Tree) (wanted : String) : ReadError :=
  match t.found? with
  | some found => .wrongKind found wanted
  | none => .malformed

/-- What a message says is wanted. -/
def Form.wanted {α : Type} : Form α → String
  | text _ => "a string"
  | integer _ => "i64"
  | count _ => "usize"
  | choice _ => "string or map"
  | list .. => "a sequence"
  | record title .. => title

mutual
/-- The text does not break in this tree; strings and numbers need not have a value. -/
def Json.Tree.isWhole : Tree → Bool
  | .array items => items.areWhole
  | .object members => members.areWhole
  | .broken => false
  | _ => true

/-- The text does not break in these items. -/
def Json.Items.areWhole : Items → Bool
  | .closed => true
  | .cut => false
  | .item t rest => t.isWhole && rest.areWhole

/-- The text does not break in these members. -/
def Json.Members.areWhole : Members → Bool
  | .closed => true
  | .cut => false
  | .misnamed _ => false
  | .member _ t rest => t.isWhole && rest.areWhole
end

/-! ## Leaves -/

/-- A name among the alternatives. -/
def choose {α : Type} (names : List (String × α)) (name : String) : Except ReadError α :=
  match names.lookup name with
  | some a => .ok a
  | none => .error (.unknownVariant name (names.map (·.1)))

/-- A tree that is neither an array nor an object. A text shows by its first character that it is
no choice. -/
def Json.Tree.readLeaf {α : Type} (origin : Origin) (t : Tree) (form : Form α) :
    Except ReadError α :=
  match form, t with
  | .text make, .string (some s) => .ok (make s)
  | .integer make, .number (some (.integer n)) =>
    match signed? n with
    | some x => .ok (make x)
    | none => .error (.outOfRange n form.wanted)
  | .count make, .number (some (.integer n)) =>
    match unsigned? n with
    | some x => .ok (make x)
    | none => .error (.outOfRange n form.wanted)
  | .choice names, .string (some s) => choose names s
  | .choice _, t => match origin with
    | .text _ => .error .malformed
    | .value => .error (t.unwanted form.wanted)
  | .record _ (some a) _ _, .null => .ok a
  | form, t => .error (t.unwanted form.wanted)

/-! ## Choices given as objects -/

/-- The alternative that the members of an object name. Two keys in a text break it off; in a
value they are a fault of their own, as is none. -/
def Json.Members.readChoice {α : Type} (origin : Origin) (names : List (String × α)) :
    Members → Except ReadError α
  | .closed => .error (match origin with
    | .text _ => .malformed
    | .value => .notOneKey)
  | .cut => .error .malformed
  | .misnamed head => .error (head.unwanted "variant identifier")
  | .member none _ _ => .error .malformed
  | .member (some key) t rest =>
    match origin, rest with
    | .value, .member .. => .error .notOneKey
    | _, _ => do
      let a ← choose names key
      match t, rest with
      | .null, .closed => .ok a
      | .null, _ => .error .malformed
      | t, _ => .error (t.unwanted "unit")

/-! ## Records -/

/-- For each field the value it has been given, if any. -/
@[reducible] def Slots : List Field → Type
  | [] => Unit
  | f :: fs => Option f.shape.Carrier × Slots fs

namespace Slots

/-- Nothing given yet. -/
def empty : (fields : List Field) → Slots fields
  | [] => ()
  | _ :: fs => (none, empty fs)

/-- Reads the value under a key into the field it names, or skips it if it names none. -/
def place (key : String) (read : (s : Shape) → Except ReadError s.Carrier)
    (skip : Except ReadError Unit) :
    (fields : List Field) → Slots fields → Except ReadError (Slots fields)
  | [], () => skip
  | f :: fs, (slot, rest) =>
    if f.answersTo key then
      match slot with
      | some _ => .error (.duplicateField f.name)
      | none => (read f.shape).map fun v => (some v, rest)
    else (place key read skip fs rest).map fun rest => (slot, rest)

/-- The values given, with the defaults for the others. -/
def finish : (fields : List Field) → Slots fields → Except ReadError (Values fields)
  | [], () => .ok ()
  | f :: fs, (slot, rest) =>
    match slot.or f.default? with
    | some v => (finish fs rest).map fun vs => (v, vs)
    | none => .error (.missingField f.name)

end Slots

/-- The defaults of the fields from the `index`-th on; a field without one makes an array too
short. -/
def defaults (wanted : String) : (fields : List Field) → Nat → Except ReadError (Values fields)
  | [], _ => .ok ()
  | f :: fs, index =>
    match f.default? with
    | some v => (defaults wanted fs (index + 1)).map fun vs => (v, vs)
    | none => .error (.wrongLength index wanted)

/-- How many items there are. -/
def Json.Items.count : Items → Nat
  | .item _ rest => rest.count + 1
  | _ => 0

/-! ## All data -/

mutual
/-- Reads a tree as a value of a shape. -/
def Json.Tree.read (origin : Origin) : Tree → (s : Shape) → Except ReadError s.Carrier
  | .array items, s =>
    match s.form with
    | .list shape make => do
      let origin ← origin.enter
      return make (← items.readList origin shape)
    | .record title _ fields make => do
      let origin ← origin.enter
      let wanted := s!"{title} with {fields.length} elements"
      return make (← items.readFields origin wanted fields 0)
    | form => (Tree.array items).readLeaf origin form
  | .object members, s =>
    match s.form with
    | .choice names => do
      members.readChoice (← origin.enter) names
    | .record _ _ fields make => do
      let slots ← members.readSlots (← origin.enter) fields (.empty fields)
      return make (← slots.finish)
    | form => (Tree.object members).readLeaf origin form
  | t, s => t.readLeaf origin s.form

/-- Reads all items of an array. -/
def Json.Items.readList (origin : Origin) (shape : Shape) :
    Items → Except ReadError (List shape.Carrier)
  | .closed => .ok []
  | .cut => .error .malformed
  | .item t rest => do
    let v ← t.read origin shape
    return v :: (← rest.readList origin shape)

/-- Reads the items of an array as fields, from the `index`-th on. -/
def Json.Items.readFields (origin : Origin) (wanted : String) :
    Items → (fields : List Field) → Nat → Except ReadError (Values fields)
  | .closed, fields, index => defaults wanted fields index
  | .cut, _, _ => .error .malformed
  | .item t rest, f :: fs, index => do
    let v ← t.read origin f.shape
    return (v, ← rest.readFields origin wanted fs (index + 1))
  | .item _ rest, [], index => .error (match origin with
    | .text _ => .malformed
    | .value => .wrongLength (index + rest.count + 1) "fewer elements in array")

/-- Reads the members of an object into the fields they name. -/
def Json.Members.readSlots (origin : Origin) :
    Members → (fields : List Field) → Slots fields → Except ReadError (Slots fields)
  | .closed, _, slots => .ok slots
  | .cut, _, _ => .error .malformed
  | .misnamed _, _, _ => .error .malformed
  | .member none _ _, _, _ => .error .malformed
  | .member (some key) t rest, fields, slots => do
    let skip := if t.isWhole then .ok () else .error .malformed
    let slots ← slots.place key (t.read origin) skip
    rest.readSlots origin fields slots
end

/-- Reads a value that is part of a larger one. -/
def Shape.ofValue (s : Shape) (v : Value) : Except ReadError s.Carrier :=
  v.tree.read .value s

/-- Reads a whole text. What stands behind the data counts only if the data is sound. -/
def Shape.ofText (s : Shape) (text : String) : Except ReadError s.Carrier := do
  let reading := Reading.ofText text
  let v ← reading.tree.read (.text maxOpen) s
  if reading.ended then return v else .error .malformed

end SearchQuery
