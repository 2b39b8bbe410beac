import SearchQuery.Json.Token

/-!
# Trees of a text

The structure of a text as far as its grammar holds. Where it fails the tree is cut off, so that
a reader going through it from the left meets what stands before the failure first. A text whose
tree is nowhere cut is well formed.
-/

namespace SearchQuery.Json

mutual
/-- What stands where a value should. -/
inductive Tree where
  | null
  | bool (b : Bool)
  /-- A numeral, `none` if it overflows. -/
  | number (n : Option Number)
  /-- A string literal, `none` if a surrogate in it has no partner. -/
  | string (s : Option String)
  | array (items : Items)
  | object (members : Members)
  /-- No value. -/
  | broken

/-- The items of an array, up to its bracket or to where the text stops being one. -/
inductive Items where
  | closed
  | cut
  | item (first : Tree) (rest : Items)

/-- The members of an object, up to its bracket or to where the text stops being one. -/
inductive Members where
  | closed
  | cut
  /-- A value stands where a key should. -/
  | misnamed (head : Tree)
  | member (key : Option String) (value : Tree) (rest : Members)
end

instance : Inhabited Tree := ⟨.broken⟩

/-! ## Trees of values -/

mutual
/-- A value's tree, in which nothing is cut. -/
def Value.tree : Value → Tree
  | .null => .null
  | .bool b => .bool b
  | .number n => .number (some n)
  | .string s => .string (some s)
  | .array items => .array (itemsTree items)
  | .object members => .object (membersTree members)

/-- The trees of an array's items. -/
def itemsTree : List Value → Items
  | [] => .closed
  | v :: rest => .item v.tree (itemsTree rest)

/-- The trees of an object's members. -/
def membersTree : List (String × Value) → Members
  | [] => .closed
  | (k, v) :: rest => .member (some k) v.tree (membersTree rest)
end

/-! ## Building a tree from tokens -/

/-- Items read so far, newest first, before the rest. -/
def Items.prepend (before : List Tree) (rest : Items) : Items :=
  before.foldl (fun rest t => .item t rest) rest

/-- Members read so far, newest first, before the rest. -/
def Members.prepend (before : List (Option String × Tree)) (rest : Members) : Members :=
  before.foldl (fun rest (k, t) => .member k t rest) rest

/-- An open container around the value being read, with what it holds so far, newest first. -/
inductive Frame where
  | array (before : List Tree)
  | object (before : List (Option String × Tree)) (key : Option String)

/-- Closes a container off around its last, unfinished value. -/
def Frame.cut (t : Tree) : Frame → Tree
  | .array before => .array (.prepend before (.item t .cut))
  | .object before key => .object (.prepend before (.member key t .cut))

/-- What may come next. -/
inductive Position where
  | value
  /-- An item, or the bracket of an empty array. -/
  | firstItem
  /-- A key, or the bracket if it is the first. -/
  | key (first : Bool) (before : List (Option String × Tree))
  | colon (before : List (Option String × Tree)) (key : Option String)
  /-- A comma or a bracket behind a finished value, or nothing. -/
  | after (t : Tree)

/-- The tree of a token that is a value by itself. -/
def Token.leaf? : Token → Option Tree
  | .null => some .null
  | .bool b => some (.bool b)
  | .number n => some (.number n)
  | .string s => some (.string s)
  | _ => none

/-- The tree of which a token shows the beginning. -/
def Token.head? : Token → Option Tree
  | .openArray => some (.array .cut)
  | .openObject => some (.object .cut)
  | t => t.leaf?

/-- A text's tree, and whether it ends where the tree does; a tree that is cut takes all of it. -/
structure Reading where
  tree : Tree
  ended : Bool

/-- The tree cut off inside all open containers, innermost first. -/
def Reading.cut (t : Tree) (frames : List Frame) : Reading :=
  ⟨frames.foldl Frame.cut t, true⟩

/-- Where a value that begins with this token leads to, if one does. -/
def Token.enter? (frames : List Frame) : Token → Option (Position × List Frame)
  | .openArray => some (.firstItem, .array [] :: frames)
  | .openObject => some (.key true [], frames)
  | t => t.leaf?.map fun leaf => (.after leaf, frames)

/-- Reads on from a position inside open containers, innermost first. -/
def Reading.resume : Position → List Frame → List Token → Reading
  | .value, fs, [] => .cut .broken fs
  | .value, fs, t :: ts =>
    match t.enter? fs with
    | some (p, fs) => resume p fs ts
    | none => .cut .broken fs
  | .firstItem, fs, [] => .cut .broken fs
  | .firstItem, fs, .closeArray :: ts => resume (.after (.array .closed)) fs.tail ts
  | .firstItem, fs, t :: ts =>
    match t.enter? fs with
    | some (p, fs) => resume p fs ts
    | none => .cut .broken fs
  | .key _ before, fs, [] => .cut (.object (.prepend before .cut)) fs
  | .key _ before, fs, .string key :: ts => resume (.colon before key) fs ts
  | .key true _, fs, .closeObject :: ts => resume (.after (.object .closed)) fs ts
  | .key _ before, fs, t :: _ =>
    match t.head? with
    | some head => .cut (.object (.prepend before (.misnamed head))) fs
    | none => .cut (.object (.prepend before .cut)) fs
  | .colon before key, fs, .colon :: ts => resume .value (.object before key :: fs) ts
  | .colon before key, fs, _ => .cut .broken (.object before key :: fs)
  | .after t, [], rest => ⟨t, rest.isEmpty⟩
  | .after t, .array before :: fs, .comma :: ts => resume .value (.array (t :: before) :: fs) ts
  | .after t, .array before :: fs, .closeArray :: ts =>
    resume (.after (.array (.prepend (t :: before) .closed))) fs ts
  | .after t, .array before :: fs, _ => .cut (.array (.prepend (t :: before) .cut)) fs
  | .after t, .object before key :: fs, .comma :: ts =>
    resume (.key false ((key, t) :: before)) fs ts
  | .after t, .object before key :: fs, .closeObject :: ts =>
    resume (.after (.object (.prepend ((key, t) :: before) .closed))) fs ts
  | .after t, .object before key :: fs, _ =>
    .cut (.object (.prepend ((key, t) :: before) .cut)) fs

/-- The tree that a sequence of tokens begins with. -/
def Reading.ofTokens (tokens : List Token) : Reading :=
  .resume .value [] tokens

end SearchQuery.Json
