import SearchQuery.Proofs.Json.Reading

/-!
# Which texts can be read back

A reader bounds how many containers may be open at once, and keeps one value under a key. So the
text of a value is read back as that value exactly if the value nests no deeper than the bound and
repeats no key.

Main statement: `Value.ofText?_text`.
-/

namespace SearchQuery.Json

/-! ## What a container holds -/

namespace Value

/-- The items of an array, or the values of an object's members. -/
def children : Value → List Value
  | .array items => items
  | .object members => members.map (·.2)
  | _ => []

/-- The keys of an object. -/
def keys : Value → List String
  | .object members => members.map (·.1)
  | _ => []

end Value

mutual
/-- As many containers as are open at once in the text of a value. -/
def Value.nesting : Value → Nat
  | .array items => itemsNesting items + 1
  | .object members => membersNesting members + 1
  | _ => 0

/-- As many containers as are open at once in one of several items. -/
def itemsNesting : List Value → Nat
  | [] => 0
  | v :: rest => max v.nesting (itemsNesting rest)

/-- As many containers as are open at once in the value of one of several members. -/
def membersNesting : List (String × Value) → Nat
  | [] => 0
  | (_, v) :: rest => max v.nesting (membersNesting rest)
end

theorem itemsNesting_le_iff {items : List Value} {n : Nat} :
    itemsNesting items ≤ n ↔ ∀ v ∈ items, v.nesting ≤ n := by
  induction items with
  | nil => simp [itemsNesting]
  | cons v rest ih => rw [itemsNesting, Nat.max_le, ih, List.forall_mem_cons]

theorem membersNesting_eq (members : List (String × Value)) :
    membersNesting members = itemsNesting (members.map (·.2)) := by
  induction members with
  | nil => rfl
  | cons m rest ih => rw [membersNesting, ih, List.map_cons, itemsNesting]

namespace Value

theorem nesting_array_le_iff {items : List Value} {n : Nat} :
    (array items).nesting ≤ n + 1 ↔ ∀ v ∈ items, v.nesting ≤ n := by
  rw [nesting, Nat.add_le_add_iff_right, itemsNesting_le_iff]

theorem nesting_object_le_iff {members : List (String × Value)} {n : Nat} :
    (object members).nesting ≤ n + 1 ↔ ∀ m ∈ members, m.2.nesting ≤ n := by
  rw [nesting, Nat.add_le_add_iff_right, membersNesting_eq, itemsNesting_le_iff,
    List.forall_mem_map]

/-- A value opens one container more than what it holds. -/
theorem nesting_le_of_children {v : Value} {n : Nat} (h : ∀ w ∈ v.children, w.nesting ≤ n) :
    v.nesting ≤ n + 1 := by
  cases v with
  | array items => exact nesting_array_le_iff.mpr h
  | object members => exact nesting_object_le_iff.mpr (List.forall_mem_map.mp h)
  | _ => exact Nat.zero_le _

/-- Around what a container holds one more is open. -/
theorem nesting_lt_of_mem_children {v w : Value} (h : w ∈ v.children) : w.nesting < v.nesting := by
  cases v with
  | array items => exact Nat.lt_succ_of_le (itemsNesting_le_iff.mp (Nat.le_refl _) w h)
  | object members =>
    rw [nesting, membersNesting_eq]
    exact Nat.lt_succ_of_le (itemsNesting_le_iff.mp (Nat.le_refl _) w h)
  | _ => cases h

/-- Induction over a value and what it holds. -/
@[elab_as_elim]
theorem induction {motive : Value → Prop}
    (step : ∀ v, (∀ w ∈ v.children, motive w) → motive v) (v : Value) : motive v :=
  step v fun w _ => induction step w
termination_by v.nesting
decreasing_by exact nesting_lt_of_mem_children ‹_›

/-- No object in the value repeats a key. -/
inductive KeysDistinct : Value → Prop
  | intro {v : Value} (keys : v.keys.Nodup) (children : ∀ w ∈ v.children, w.KeysDistinct) :
      v.KeysDistinct

end Value

namespace Value

theorem keysDistinct_array_iff {items : List Value} :
    (array items).KeysDistinct ↔ ∀ v ∈ items, v.KeysDistinct :=
  ⟨fun | .intro _ hchildren => hchildren, fun h => .intro List.nodup_nil h⟩

theorem keysDistinct_object_iff {members : List (String × Value)} :
    (object members).KeysDistinct ↔
      (members.map (·.1)).Nodup ∧ ∀ m ∈ members, m.2.KeysDistinct :=
  ⟨fun | .intro hkeys hchildren => ⟨hkeys, List.forall_mem_map.mp hchildren⟩,
    fun h => .intro h.1 (List.forall_mem_map.mpr h.2)⟩

/-- What is no container repeats no key. -/
theorem keysDistinct_of_nesting_eq_zero {v : Value} (h : v.nesting = 0) : v.KeysDistinct := by
  cases v with
  | array items => cases h
  | object members => cases h
  | _ => exact .intro List.nodup_nil fun _ hw => nomatch hw

theorem keysDistinct_string (s : String) : (string s).KeysDistinct :=
  keysDistinct_of_nesting_eq_zero rfl

theorem keysDistinct_int (n : Int) : (int n).KeysDistinct :=
  keysDistinct_of_nesting_eq_zero rfl

theorem keysDistinct_strings (xs : List String) : (strings xs).KeysDistinct :=
  keysDistinct_array_iff.mpr (List.forall_mem_map.mpr fun s _ => keysDistinct_string s)

/-- An object with a single key repeats none. -/
theorem keysDistinct_singleton {key : String} {v : Value} (h : v.KeysDistinct) :
    (object [(key, v)]).KeysDistinct :=
  keysDistinct_object_iff.mpr ⟨by simp, List.forall_mem_singleton.mpr h⟩

theorem nesting_strings_le (xs : List String) : (strings xs).nesting ≤ 1 :=
  nesting_array_le_iff.mpr (List.forall_mem_map.mpr fun _ _ => Nat.le_refl 0)

/-- An object with a single key is one more container around the value under it. -/
theorem nesting_singleton (key : String) (v : Value) :
    (object [(key, v)]).nesting = v.nesting + 1 := by
  rw [nesting, membersNesting, membersNesting, Nat.max_zero]

end Value

/-! ## Members that may be left out -/

theorem forall_mem_optionalMember {P : Value → Prop} {key : String} {v : Option Value} :
    (∀ m ∈ optionalMember key v, P m.2) ↔ ∀ w, v = some w → P w := by
  cases v <;> simp [optionalMember]

theorem forall_mem_listMember {P : Value → Prop} {key : String} {items : List Value} :
    (∀ m ∈ listMember key items, P m.2) ↔ (items ≠ [] → P (.array items)) := by
  cases items <;> simp [listMember]

theorem keys_optionalMember_sublist (key : String) (v : Option Value) :
    ((optionalMember key v).map (·.1)).Sublist [key] := by
  cases v <;> simp [optionalMember]

theorem keys_listMember_sublist (key : String) (items : List Value) :
    ((listMember key items).map (·.1)).Sublist [key] := by
  cases items <;> simp [listMember]

/-! ## From a tree back to the value -/

/-- A value under a new key comes last. -/
theorem setMember_of_notMem {key : String} (v : Value) {members : List (String × Value)}
    (h : key ∉ members.map (·.1)) : setMember key v members = members ++ [(key, v)] := by
  induction members with
  | nil => rfl
  | cons m rest ih =>
    obtain ⟨k, w⟩ := m
    obtain ⟨hk, hrest⟩ : key ≠ k ∧ key ∉ rest.map (·.1) := by simpa using h
    rw [setMember, if_neg (Ne.symm hk), ih hrest, List.cons_append]

mutual
/-- The tree of a value is read as that value, if there is room. -/
theorem Value.value?_tree : ∀ {v : Value}, v.KeysDistinct → ∀ room,
    v.tree.value? room = if v.nesting ≤ room then some v else none
  | .null, _, _ => rfl
  | .bool _, _, _ => rfl
  | .number _, _, _ => rfl
  | .string _, _, _ => rfl
  | .array _, _, 0 => rfl
  | .array items, .intro _ hchildren, room + 1 => by
    have hitems : ∀ v ∈ items, v.KeysDistinct := hchildren
    rw [Value.tree, Tree.value?, values?_itemsTree hitems room [], Value.nesting]
    simp only [Nat.add_le_add_iff_right]
    split <;> rfl
  | .object _, _, 0 => rfl
  | .object members, .intro hkeys hchildren, room + 1 => by
    have hmembers : ∀ m ∈ members, m.2.KeysDistinct := List.forall_mem_map.mp hchildren
    rw [Value.tree, Tree.value?, values?_membersTree hmembers room [] hkeys, Value.nesting]
    simp only [Nat.add_le_add_iff_right]
    split <;> rfl

theorem values?_itemsTree : ∀ {items : List Value}, (∀ v ∈ items, v.KeysDistinct) →
    ∀ room before, (itemsTree items).values? room before =
      if itemsNesting items ≤ room then some (before.reverse ++ items) else none
  | [], _, _, before => by simp [itemsTree, Items.values?, itemsNesting]
  | v :: rest, h, room, before => by
    obtain ⟨hv, hrest⟩ := List.forall_mem_cons.mp h
    have hhead := Value.value?_tree hv room
    have htail := values?_itemsTree hrest room (v :: before)
    have hnesting : itemsNesting (v :: rest) ≤ room ↔ v.nesting ≤ room ∧ itemsNesting rest ≤ room :=
      Nat.max_le
    by_cases hroom : v.nesting ≤ room
    · rw [if_pos hroom] at hhead
      simp [itemsTree, Items.values?, hhead, htail, hnesting, hroom]
    · rw [if_neg hroom] at hhead
      simp [itemsTree, Items.values?, hhead, hnesting, hroom]

/-- Keys that are new to those before them leave the members in order. -/
theorem values?_membersTree : ∀ {members : List (String × Value)},
    (∀ m ∈ members, m.2.KeysDistinct) → ∀ (room : Nat) (before : List (String × Value)),
    ((before ++ members).map (·.1)).Nodup → (membersTree members).values? room before =
      if membersNesting members ≤ room then some (before ++ members) else none
  | [], _, _, before, _ => by simp [membersTree, Members.values?, membersNesting]
  | (k, v) :: rest, h, room, before, hkeys => by
    obtain ⟨hv, hrest⟩ := List.forall_mem_cons.mp h
    have hk : k ∉ before.map (·.1) := by
      intro hmem
      rw [List.map_append] at hkeys
      exact (List.nodup_append.mp hkeys).2.2 k hmem k List.mem_cons_self rfl
    have hhead : v.tree.value? room = _ := Value.value?_tree hv room
    have htail := values?_membersTree hrest room (before ++ [(k, v)]) (by simpa using hkeys)
    have hnesting : membersNesting ((k, v) :: rest) ≤ room ↔
        v.nesting ≤ room ∧ membersNesting rest ≤ room :=
      Nat.max_le
    by_cases hroom : v.nesting ≤ room
    · rw [if_pos hroom] at hhead
      simp [membersTree, Members.values?, hhead, setMember_of_notMem v hk, htail, hnesting, hroom]
    · rw [if_neg hroom] at hhead
      simp [membersTree, Members.values?, hhead, hnesting, hroom]
end

/-- A text that was written is read back exactly if there is room for its containers. -/
theorem Value.ofText?_text (l : Layout) {v : Value} (hexact : v.IsExact) (hkeys : v.KeysDistinct)
    (room : Nat) : ofText? room (v.text l) = if v.nesting ≤ room then some v else none := by
  rw [ofText?, Reading.ofText_text l hexact]
  exact value?_tree hkeys room

end SearchQuery.Json
