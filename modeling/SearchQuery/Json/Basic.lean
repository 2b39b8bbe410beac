/-!
# JSON values

A value as the rest of the library sees it: numbers are split into exact integers and floats,
and an object is the list of its members in the order they stand.
-/

namespace SearchQuery

/-! ## Lists taken item by item -/

section
variable {α β : Type}

/-- A function on lists that takes one item after the other is a map. -/
theorem eq_map_of_cons {f : α → β} {all : List α → List β} (hnil : all [] = [])
    (hcons : ∀ a rest, all (a :: rest) = f a :: all rest) (items : List α) :
    all items = items.map f := by
  induction items with
  | nil => exact hnil
  | cons a rest ih => rw [hcons, ih, List.map_cons]

/-- A function on lists that puts what it makes of the items one behind the other. -/
theorem eq_flatMap_of_cons {f : α → List β} {all : List α → List β} (hnil : all [] = [])
    (hcons : ∀ a rest, all (a :: rest) = f a ++ all rest) (items : List α) :
    all items = items.flatMap f := by
  induction items with
  | nil => exact hnil
  | cons a rest ih => rw [hcons, ih, List.flatMap_cons]

/-- If no key stands twice, what is found under a key is whatever stands beside it. -/
theorem lookup_eq_some_iff_mem [BEq α] [LawfulBEq α] {entries : List (α × β)}
    (hkeys : (entries.map (·.1)).Nodup) {key : α} {b : β} :
    entries.lookup key = some b ↔ (key, b) ∈ entries := by
  induction entries with
  | nil => simp
  | cons e rest ih =>
    obtain ⟨other, c⟩ := e
    obtain ⟨hother, hrest⟩ := List.nodup_cons.mp hkeys
    by_cases hkey : key = other
    · -- the key does not stand among the rest again
      subst hkey
      have hnotMem : (key, b) ∉ rest := fun hmem =>
        hother (List.mem_map.mpr ⟨(key, b), hmem, rfl⟩)
      simp [hnotMem, eq_comm]
    · have hne : (key == other) = false := beq_false_of_ne hkey
      simp [List.lookup_cons, hne, ih hrest, hkey]

end

namespace Json

/-! ## Values -/

/-- A numeral without point and exponent that fits 64 bits, signed or unsigned, is an exact
integer; every other numeral, and `-0`, is a float. -/
inductive Number where
  | integer (n : Int)
  | float (x : Float)
  deriving Inhabited

/-- A JSON value, object members in order. -/
inductive Value where
  | null
  | bool (b : Bool)
  | number (n : Number)
  | string (s : String)
  | array (items : List Value)
  | object (members : List (String × Value))
  deriving Inhabited

namespace Value

/-- The integer `n` as a value. -/
def int (n : Int) : Value := .number (.integer n)

/-- A list of strings as an array. -/
def strings (xs : List String) : Value := .array (xs.map .string)

/-- The value under a key; only objects have one. -/
def get? (key : String) : Value → Option Value
  | .object members => members.lookup key
  | _ => none

/-- The text of a string value. -/
def string? : Value → Option String
  | .string s => some s
  | _ => none

end Value

/-- A member for something that may be absent. -/
def optionalMember (key : String) (v : Option Value) : List (String × Value) :=
  v.toList.map fun v => (key, v)

/-- A member for a list, unless it is empty. -/
def listMember (key : String) (items : List Value) : List (String × Value) :=
  if items.isEmpty then [] else [(key, .array items)]

@[simp] theorem lookup_optionalMember_self (key : String) (v : Option Value) :
    (optionalMember key v).lookup key = v := by
  cases v with
  | none => rfl
  | some v => exact List.lookup_cons_self

@[simp] theorem lookup_optionalMember_of_ne {key other : String} (hne : other ≠ key)
    (v : Option Value) : (optionalMember key v).lookup other = none := by
  have hne' : (other == key) = false := beq_false_of_ne hne
  cases v <;> simp [optionalMember, List.lookup_cons, hne']

@[simp] theorem lookup_listMember_self (key : String) (items : List Value) :
    (listMember key items).lookup key = if items.isEmpty then none else some (.array items) := by
  unfold listMember
  split
  · rfl
  · exact List.lookup_cons_self

@[simp] theorem lookup_listMember_of_ne {key other : String} (hne : other ≠ key)
    (items : List Value) : (listMember key items).lookup other = none := by
  have hne' : (other == key) = false := beq_false_of_ne hne
  unfold listMember
  split <;> simp [List.lookup_cons, hne']

/-- Puts a value under a key: in place of the one that stands there, else at the end. -/
def setMember (key : String) (v : Value) : List (String × Value) → List (String × Value)
  | [] => [(key, v)]
  | (k, w) :: rest => if k = key then (k, v) :: rest else (k, w) :: setMember key v rest

end Json

end SearchQuery
