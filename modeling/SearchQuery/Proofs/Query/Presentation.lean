import Mathlib.Data.List.Forall2
import SearchQuery.Json.Basic
import SearchQuery.Query.Shape

/-!
# How query data is presented

The grammar of query data: which values of JSON stand for which conditions, groups, queries and
options. It names every field, alternative and default on its own and knows nothing of a reader.

A record is an object with its fields under their names, in any order and among any other keys, or
an array of them in the order of their declaration. A field that is not given has its default, if
it has one.

Main definition: `Shape.Presents`.
-/

namespace SearchQuery

open Json

/-! ## Leaves and lists -/

/-- A string presents itself. -/
inductive IsText : Value → String → Prop
  | string (s : String) : IsText (.string s) s

/-- An integer presents the word with a sign that denotes it; a float presents none. -/
inductive IsInteger : Value → Int64 → Prop
  | integer (x : Int64) : IsInteger (.int x.toInt) x

/-- An integer presents the word without a sign that denotes it; a float presents none. -/
inductive IsCount : Value → UInt64 → Prop
  | integer (x : UInt64) : IsCount (.int x.toNat) x

section
variable {α : Type}

/-- An alternative is presented by one of its names, or by an object with that name as its only
key and `null` under it. -/
inductive OneOf (names : List (String × α)) : Value → α → Prop
  | string {name : String} {a : α} (h : (name, a) ∈ names) : OneOf names (.string name) a
  | object {name : String} {a : α} (h : (name, a) ∈ names) :
      OneOf names (.object [(name, .null)]) a

/-- A list is presented by an array that presents its items in order. -/
inductive ListOf (presents : Value → α → Prop) : Value → List α → Prop
  | array {items : List Value} {xs : List α} (h : List.Forall₂ presents items xs) :
      ListOf presents (.array items) xs

/-- What may be missing is presented by `null` if it is. -/
inductive OrNull (presents : Value → α → Prop) : Value → Option α → Prop
  | null : OrNull presents .null none
  | given {v : Value} {a : α} (h : presents v a) : OrNull presents v (some a)

/-! ## Fields -/

/-- A field that is given once is presented by what it is given, and one that is not given has its
default. A field that is given twice has no value. -/
inductive Supplied {β : Type} (presents : β → α → Prop) (default? : Option α) :
    List β → α → Prop
  | given {v : β} {a : α} (h : presents v a) : Supplied presents default? [v] a
  | absent {a : α} (h : default? = some a) : Supplied presents default? [] a

end

/-- What stands under one of several names. -/
def under {β : Type} (names : List String) (members : List (String × β)) : List β :=
  (members.filter fun m => names.contains m.1).map (·.2)

theorem under_cons {β : Type} {names : List String} {key : String} {v : β}
    {members : List (String × β)} :
    under names ((key, v) :: members) =
      if names.contains key then v :: under names members else under names members := by
  unfold under
  by_cases h : names.contains key = true
  · rw [if_pos h, List.filter_cons_of_pos (by exact h), List.map_cons]
  · rw [if_neg h, List.filter_cons_of_neg (by exact h)]

namespace Json.Value

/-- An object, or an array of at most so many items. -/
def IsRecord (fields : Nat) : Value → Prop
  | object _ => True
  | array items => items.length ≤ fields
  | _ => False

/-- What a record gives to one of its fields: in an object what stands under one of the field's
names, in an array the item at its place. -/
def given (place : Nat) (names : List String) : Value → List Value
  | object members => under names members
  | array items => items[place]?.toList
  | _ => []

end Json.Value

/-! ## Conditions and groups -/

/-- The condition that a value presents. -/
structure Condition.Presented (v : Value) (c : Condition) : Prop where
  record : v.IsRecord 3
  field : Supplied IsText none (v.given 0 ["field"]) c.field
  operator : Supplied IsText none (v.given 1 ["type", "operator"]) c.operator
  operands : Supplied (ListOf IsText) (some []) (v.given 2 ["operands"]) c.operands

/-- The operator that a value presents. -/
def GroupOperator.Presented : Value → GroupOperator → Prop :=
  OneOf [("AND", .and), ("and", .and), ("OR", .or), ("or", .or)]

/-- The group that a value presents. -/
inductive ConditionGroup.Presented : Value → ConditionGroup → Prop
  | intro {v : Value} {operator : GroupOperator} {conditions : List Condition}
      {groups : List ConditionGroup} (record : v.IsRecord 3)
      (operator' : Supplied GroupOperator.Presented (some .and) (v.given 0 ["operator"]) operator)
      (conditions' : Supplied (ListOf Condition.Presented) (some [])
        (v.given 1 ["conditions"]) conditions)
      (groups' : Supplied (ListOf Presented) (some []) (v.given 2 ["groups"]) groups) :
      Presented v ⟨operator, conditions, groups⟩

/-! ## Queries and options -/

/-- The direction that a value presents. -/
def SortDirection.Presented : Value → SortDirection → Prop :=
  OneOf [("ASC", .ascending), ("asc", .ascending), ("ascending", .ascending),
    ("DESC", .descending), ("desc", .descending), ("descending", .descending)]

/-- The sort key that a value presents. -/
structure SortKey.Presented (v : Value) (k : SortKey) : Prop where
  record : v.IsRecord 2
  field : Supplied IsText none (v.given 0 ["field"]) k.field
  direction : Supplied SortDirection.Presented (some .ascending) (v.given 1 ["direction"])
    k.direction

/-- The query that a value presents. -/
structure Query.Presented (v : Value) (q : Query) : Prop where
  record : v.IsRecord 5
  columns : Supplied (ListOf IsText) (some []) (v.given 0 ["columns"]) q.columns
  size : Supplied IsInteger (some (-1)) (v.given 1 ["size"]) q.size
  offset : Supplied IsInteger (some 0) (v.given 2 ["offset"]) q.offset
  sortBy : Supplied (ListOf SortKey.Presented) (some []) (v.given 3 ["sort_by"]) q.sortBy
  conditions : Supplied (OrNull ConditionGroup.Presented) (some none) (v.given 4 ["conditions"])
    q.conditions

/-- The policy that a value presents. -/
def UnsupportedPolicy.Presented : Value → UnsupportedPolicy → Prop :=
  OneOf [("fail", .fail), ("skip", .skip)]

/-- The options that a value presents. -/
structure CompileOptions.Presented (v : Value) (o : CompileOptions) : Prop where
  record : v.IsRecord 2
  maxDepth : Supplied IsCount (some 32) (v.given 0 ["max_depth"]) o.maxDepth
  onUnsupported : Supplied UnsupportedPolicy.Presented (some .fail) (v.given 1 ["on_unsupported"])
    o.onUnsupported

/-! ## All shapes -/

/-- What a value presents. -/
def Shape.Presents : (s : Shape) → Value → s.Carrier → Prop
  | text => IsText
  | integer => IsInteger
  | count => IsCount
  | groupOperator => GroupOperator.Presented
  | sortDirection => SortDirection.Presented
  | policy => UnsupportedPolicy.Presented
  | condition => Condition.Presented
  | group => ConditionGroup.Presented
  | optionalGroup => OrNull ConditionGroup.Presented
  | sortKey => SortKey.Presented
  | query => Query.Presented
  | options => CompileOptions.Presented
  | list item => ListOf item.Presents

end SearchQuery
