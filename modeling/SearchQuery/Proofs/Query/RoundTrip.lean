import SearchQuery.Proofs.Query.Acceptance
import SearchQuery.Proofs.Rendering
import SearchQuery.Query.Writer

/-!
# Query data written and read again

What is written presents what it was written from, so that it is read back if the reader has room
for its containers. Written again, data that was read may open containers that were not there: every
list is spelled out, also one that was left out. There is room for them all the same, since a level
of groups takes two containers, and a text can open an odd number of them.

Main statement: `text_round_trip`.
-/

namespace SearchQuery

open Json

/-! ## What is written -/

theorem ConditionGroup.jsonAll_eq_map (groups : List ConditionGroup) :
    json.jsonAll groups = groups.map json :=
  eq_map_of_cons rfl (fun _ _ => rfl) groups

/-- The rendering of a value of a shape. -/
def Shape.json : (s : Shape) → s.Carrier → Value
  | text => .string
  | integer => fun x => .int x.toInt
  | count => fun x => .int x.toNat
  | groupOperator => GroupOperator.json
  | sortDirection => SortDirection.json
  | policy => UnsupportedPolicy.json
  | condition => Condition.json
  | group => ConditionGroup.json
  | optionalGroup => fun g => (g.map ConditionGroup.json).getD .null
  | sortKey => SortKey.json
  | query => Query.json
  | options => CompileOptions.json
  | list item => fun xs => .array (xs.map item.json)

/-! ### It is exact -/

theorem Condition.isExact_json (c : Condition) : c.json.IsExact :=
  ⟨trivial, trivial, Value.isExact_strings c.operands, trivial⟩

theorem ConditionGroup.isExact_json (g : ConditionGroup) : g.json.IsExact := by
  induction g with
  | group operator conditions groups ih =>
    rw [json, jsonAll_eq_map]
    exact ⟨trivial, Value.isExact_array fun c _ => c.isExact_json, Value.isExact_array ih, trivial⟩

theorem SortKey.isExact_json (k : SortKey) : k.json.IsExact := ⟨trivial, trivial, trivial⟩

theorem ConditionGroup.isExact_json_orNull : ∀ g : Option ConditionGroup,
    ((g.map json).getD .null).IsExact
  | none => trivial
  | some g => g.isExact_json

theorem Query.isExact_json (q : Query) : q.json.IsExact :=
  ⟨Value.isExact_strings q.columns, Value.isExact_signed q.size, Value.isExact_signed q.offset,
    Value.isExact_array fun k _ => k.isExact_json,
    ConditionGroup.isExact_json_orNull q.conditions, trivial⟩

theorem Shape.isExact_json : ∀ (s : Shape) (a : s.Carrier), (s.json a).IsExact
  | text, _ | groupOperator, _ | sortDirection, _ | policy, _ => trivial
  | integer, x => Value.isExact_signed x
  | count, x => Value.isExact_word x
  | condition, c => c.isExact_json
  | group, g => g.isExact_json
  | optionalGroup, g => ConditionGroup.isExact_json_orNull g
  | sortKey, k => k.isExact_json
  | query, q => q.isExact_json
  | options, o => ⟨Value.isExact_word o.maxDepth, trivial, trivial⟩
  | list item, _ => Value.isExact_array fun x _ => isExact_json item x

/-! ### It presents what it was written from -/

theorem listOf_map {α : Type} {presents : Value → α → Prop} {f : α → Value} {xs : List α}
    (h : ∀ x ∈ xs, presents (f x) x) : ListOf presents (.array (xs.map f)) xs :=
  .array (List.forall₂_map_left_iff.mpr (List.forall₂_same.mpr h))

theorem Condition.presented_json (c : Condition) : Presented c.json c where
  record := trivial
  field := .given (.string c.field)
  operator := .given (.string c.operator)
  operands := .given (listOf_map fun s _ => .string s)

theorem GroupOperator.presented_json (o : GroupOperator) : Presented o.json o := by
  cases o <;> exact .string (by decide)

theorem ConditionGroup.presented_json (g : ConditionGroup) : Presented g.json g := by
  induction g with
  | group operator conditions groups ih =>
    rw [json, jsonAll_eq_map]
    exact .intro trivial (.given operator.presented_json)
      (.given (listOf_map fun c _ => c.presented_json)) (.given (listOf_map ih))

theorem SortDirection.presented_json (d : SortDirection) : Presented d.json d := by
  cases d <;> exact .string (by decide)

theorem SortKey.presented_json (k : SortKey) : Presented k.json k where
  record := trivial
  field := .given (.string k.field)
  direction := .given k.direction.presented_json

theorem ConditionGroup.presented_json_orNull : ∀ g : Option ConditionGroup,
    OrNull Presented ((g.map json).getD .null) g
  | none => .null
  | some g => .given g.presented_json

theorem Query.presented_json (q : Query) : Presented q.json q where
  record := trivial
  columns := .given (listOf_map fun s _ => .string s)
  size := .given (.integer q.size)
  offset := .given (.integer q.offset)
  sortBy := .given (listOf_map fun k _ => k.presented_json)
  conditions := .given (ConditionGroup.presented_json_orNull q.conditions)

theorem UnsupportedPolicy.presented_json (p : UnsupportedPolicy) : Presented p.json p := by
  cases p <;> exact .string (by decide)

theorem CompileOptions.presented_json (o : CompileOptions) : Presented o.json o where
  record := trivial
  maxDepth := .given (.integer o.maxDepth)
  onUnsupported := .given o.onUnsupported.presented_json

theorem Shape.presents_json : ∀ (s : Shape) (a : s.Carrier), s.Presents (s.json a) a
  | text, x => .string x
  | integer, x => .integer x
  | count, x => .integer x
  | groupOperator, o => o.presented_json
  | sortDirection, d => d.presented_json
  | policy, p => p.presented_json
  | condition, c => c.presented_json
  | group, g => g.presented_json
  | optionalGroup, g => ConditionGroup.presented_json_orNull g
  | sortKey, k => k.presented_json
  | query, q => q.presented_json
  | options, o => o.presented_json
  | list item, _ => listOf_map fun x _ => presents_json item x

/-- The text of a value is read as what the value presents, if there is room for its containers. -/
theorem Shape.ofText_text_iff {s : Shape} {v : Value} {a : s.Carrier} (hexact : v.IsExact)
    (hroom : v.nesting ≤ maxOpen) (l : Layout) :
    s.ofText (v.text l) = .ok a ↔ s.Presents v a := by
  have hread : v.tree.read (.text maxOpen) s = .ok a ↔ s.Presents v a :=
    v.isReadAsPresented (.text maxOpen) s a hroom
  rw [ofText, Reading.ofText_text l hexact, ← hread]
  simp

/-! ## The room that was there -/

theorem Origin.enter_text_eq_ok_iff {room : Nat} {inner : Origin} :
    (text room).enter = .ok inner ↔ ∃ below, room = below + 1 ∧ inner = text below := by
  cases room with
  | zero => simp [enter]
  | succ below => simp [enter, eq_comm]

theorem exists_of_forall₂_of_mem {α β : Type} {R : α → β → Prop} {xs : List α} {ys : List β}
    (h : List.Forall₂ R xs ys) {y : β} (hy : y ∈ ys) : ∃ x, R x y := by
  induction h with
  | nil => cases hy
  | @cons x y' xs ys hxy _ ih =>
    rcases List.mem_cons.mp hy with rfl | hrest
    · exact ⟨x, hxy⟩
    · exact ih hrest

/-- An item of a list was read one container further in. -/
theorem exists_read_of_mem {room : Nat} {item : Shape} {given : List Tree}
    {xs : List item.Carrier}
    (h : Supplied (Reads (.text room) (.list item)) (some []) given xs) {x : item.Carrier}
    (hx : x ∈ xs) :
    ∃ (below : Nat) (t : Tree), room = below + 1 ∧ t.read (.text below) item = .ok x := by
  cases h with
  | given hread =>
    obtain ⟨inner, -, ts, hinner, -, -, hitems⟩ := Tree.read_list_iff.mp hread
    obtain ⟨below, hroom, rfl⟩ := Origin.enter_text_eq_ok_iff.mp hinner
    obtain ⟨t, ht⟩ := exists_of_forall₂_of_mem hitems hx
    exact ⟨below, t, hroom, ht⟩
  | absent hdefault =>
    obtain rfl := Option.some.inj hdefault
    cases hx

/-- A condition is a container. -/
theorem Condition.exists_room_of_read {room : Nat} {t : Tree} {c : Condition}
    (h : t.read (.text room) .condition = .ok c) : ∃ below, room = below + 1 := by
  obtain ⟨-, ⟨⟩⟩ | ⟨inner, -, hinner, -⟩ := (Tree.read_record_iff rfl (by decide)).mp h
  obtain ⟨below, hroom, -⟩ := Origin.enter_text_eq_ok_iff.mp hinner
  exact ⟨below, hroom⟩

namespace ConditionGroup

/-- What is in a group was read two containers further in. -/
theorem exists_room_of_read {room : Nat} {t : Tree} {g : ConditionGroup}
    (h : t.read (.text room) .group = .ok g) : ∃ inside, room = inside + 1 ∧
      (∀ c ∈ g.conditions, ∃ (below : Nat) (t : Tree), inside = below + 1 ∧
        t.read (.text below) .condition = .ok c) ∧
      ∀ nested ∈ g.groups, ∃ (below : Nat) (t : Tree), inside = below + 1 ∧
        t.read (.text below) .group = .ok nested := by
  obtain ⟨-, ⟨⟩⟩ | ⟨inner, values, hinner, -, ⟨-, hconditions, hgroups, -⟩, rfl⟩ :=
    (Tree.read_record_iff rfl (by decide)).mp h
  obtain ⟨inside, hroom, rfl⟩ := Origin.enter_text_eq_ok_iff.mp hinner
  exact ⟨inside, hroom, fun c hc => exists_read_of_mem hconditions hc,
    fun nested hnested => exists_read_of_mem hgroups hnested⟩

/-- A group that may be missing is read as a group, if it is not. -/
theorem read_of_read_orNull {origin : Origin} {t : Tree} {g : ConditionGroup}
    (h : t.read origin .optionalGroup = .ok (some g)) : t.read origin .group = .ok g := by
  obtain ⟨-, ⟨⟩⟩ | ⟨inner, ⟨o, cs, gs, ⟨⟩⟩, hinner, hrecord, hfields, hg⟩ :=
    (Tree.read_record_iff rfl (by decide)).mp h
  exact (Tree.read_record_iff rfl (by decide)).mpr
    (Or.inr ⟨inner, (o, cs, gs, ()), hinner, hrecord, hfields, Option.some.inj hg⟩)

end ConditionGroup

/-! ## The room that is needed -/

theorem Condition.nesting_json_le (c : Condition) : c.json.nesting ≤ 2 := by
  refine Value.nesting_object_le_iff.mpr ?_
  simp only [List.forall_mem_cons]
  exact ⟨Nat.zero_le 1, Nat.zero_le 1, Value.nesting_strings_le c.operands, nofun⟩

theorem SortKey.nesting_json_le (k : SortKey) : k.json.nesting ≤ 1 := by
  refine Value.nesting_object_le_iff.mpr ?_
  simp only [List.forall_mem_cons]
  exact ⟨Nat.le_refl 0, Nat.le_refl 0, nofun⟩

/-- A group and its lists are two containers around what is in them. -/
theorem ConditionGroup.nesting_json_le {operator : GroupOperator} {conditions : List Condition}
    {groups : List ConditionGroup} {n : Nat} (hconditions : ∀ c ∈ conditions, c.json.nesting ≤ n)
    (hgroups : ∀ g ∈ groups, g.json.nesting ≤ n) :
    (json ⟨operator, conditions, groups⟩).nesting ≤ n + 2 := by
  rw [json, jsonAll_eq_map]
  refine Value.nesting_object_le_iff.mpr ?_
  simp only [List.forall_mem_cons]
  exact ⟨Nat.zero_le (n + 1), Value.nesting_array_le_iff.mpr (List.forall_mem_map.mpr hconditions),
    Value.nesting_array_le_iff.mpr (List.forall_mem_map.mpr hgroups), nofun⟩

/-- A group that was read where an even number of containers could be opened needs no more of them
when it is written: a condition needs two, and it was read where there was room for one, so that
there was room for two. -/
theorem ConditionGroup.nesting_json_le_of_read {g : ConditionGroup} {t : Tree} {levels : Nat}
    (h : t.read (.text (2 * levels)) .group = .ok g) : g.json.nesting ≤ 2 * levels := by
  induction g generalizing t levels with
  | group operator conditions groups ih =>
    obtain ⟨inside, hroom, hconditions, hgroups⟩ := exists_room_of_read h
    obtain ⟨inner, rfl⟩ : ∃ inner, levels = inner + 1 := ⟨levels - 1, by omega⟩
    refine nesting_json_le (n := 2 * inner) (fun c hc => ?_) (fun g hg => ?_)
    · obtain ⟨below, t, hbelow, hread⟩ := hconditions c hc
      obtain ⟨last, hlast⟩ := Condition.exists_room_of_read hread
      have hnesting := c.nesting_json_le
      omega
    · obtain ⟨below, t, hbelow, hread⟩ := hgroups g hg
      -- what is below has two containers less, again an even number
      obtain rfl : below = 2 * inner := by omega
      exact ih g hg hread

/-- What is not the default has been given. -/
theorem Supplied.exists_presents {α β : Type} {presents : β → α → Prop} {default? : Option α}
    {given : List β} {a : α} (h : Supplied presents default? given a) (hne : default? ≠ some a) :
    ∃ v, presents v a := by
  cases h with
  | given hv => exact ⟨_, hv⟩
  | absent hdefault => exact absurd hdefault hne

/-- The condition tree of a query that was read from a text was read one container further in. -/
theorem Query.exists_read_conditions {q : Query} {t : Tree} {room : Nat}
    (h : t.read (.text (room + 1)) .query = .ok q) {g : ConditionGroup}
    (hg : q.conditions = some g) : ∃ t : Tree, t.read (.text room) .group = .ok g := by
  obtain ⟨-, ⟨⟩⟩ | ⟨inner, values, hinner, -, ⟨-, -, -, -, hconditions, -⟩, rfl⟩ :=
    (Tree.read_record_iff rfl (by decide)).mp h
  obtain ⟨_, ⟨⟩, rfl⟩ := Origin.enter_text_eq_ok_iff.mp hinner
  rw [show values.2.2.2.2.1 = some g from hg] at hconditions
  obtain ⟨t, hread⟩ := hconditions.exists_presents nofun
  exact ⟨t, ConditionGroup.read_of_read_orNull hread⟩

/-- A query that was read from a text needs no more containers when it is written than a text may
open. -/
theorem Query.nesting_json_le_of_read {q : Query} {t : Tree}
    (h : t.read (.text maxOpen) .query = .ok q) : q.json.nesting ≤ maxOpen := by
  -- the query itself is the odd container
  have hconditions : ((q.conditions.map ConditionGroup.json).getD .null).nesting ≤ 2 * 63 := by
    cases hq : q.conditions with
    | none => exact Nat.zero_le _
    | some g =>
      obtain ⟨t, hread⟩ := exists_read_conditions h hq
      exact ConditionGroup.nesting_json_le_of_read hread
  have hsort : (Value.array (q.sortBy.map SortKey.json)).nesting ≤ 2 :=
    Value.nesting_array_le_iff.mpr (List.forall_mem_map.mpr fun k _ => k.nesting_json_le)
  have hcolumns := Value.nesting_strings_le q.columns
  refine Value.nesting_object_le_iff.mpr ?_
  simp only [List.forall_mem_cons]
  exact ⟨by omega, Nat.zero_le _, Nat.zero_le _, by omega, hconditions, nofun⟩

theorem Query.nesting_json_le_of_ofText {q : Query} {text : String}
    (h : Shape.query.ofText text = .ok q) : q.json.nesting ≤ maxOpen :=
  nesting_json_le_of_read (Shape.ofText_eq_ok_iff.mp h).1

/-- Whatever is written with no more than 127 containers open at once is read back in either
layout. A query that was read from a text keeps within this bound, although lists that were left out
are now spelled out; so it is read again as itself, and written again as the same text. -/
theorem text_round_trip :
    (∀ (s : Shape) (a : s.Carrier), (s.json a).nesting ≤ 127 →
      ∀ l, s.ofText ((s.json a).text l) = .ok a) ∧
    (∀ (text : String) (q : Query), Shape.query.ofText text = .ok q →
      q.json.nesting ≤ 127 ∧ ∀ l, Shape.query.ofText (q.json.text l) = .ok q ∧
        ∀ l', (Shape.query.ofText (q.json.text l)).map (fun again => again.json.text l') =
          .ok (q.json.text l')) := by
  have hwritten (s : Shape) (a : s.Carrier) (h : (s.json a).nesting ≤ 127) (l : Layout) :
      s.ofText ((s.json a).text l) = .ok a :=
    (Shape.ofText_text_iff (s.isExact_json a) h l).mpr (s.presents_json a)
  refine ⟨hwritten, fun text q h => ?_⟩
  have hnesting : q.json.nesting ≤ 127 := Query.nesting_json_le_of_ofText h
  refine ⟨hnesting, fun l => ?_⟩
  have hread : Shape.query.ofText (q.json.text l) = .ok q := hwritten .query q hnesting l
  refine ⟨hread, fun l' => ?_⟩
  rw [hread]
  rfl

/-- A page of whatever has a name, from the least offset there is. -/
def Query.named : Query where
  size := 7
  offset := Int64.minValue
  conditions := some { operator := .or, conditions := [⟨"name", "exists", []⟩] }

/-- The same query without a key and without the lists that are empty at the end. -/
def Query.namedInShort : Value :=
  .array [.array [], .int 7, .int Int64.minValue.toInt, .array [],
    .array [.string "or", .array [.array [.string "name", .string "exists"]]]]

/-- The last lists of this query are written, also if the text that it was read from has none of
them. -/
theorem text_round_trip_named :
    (∀ l, Shape.query.ofText (Query.named.json.text l) = .ok .named) ∧
    Shape.query.ofText (Query.namedInShort.text .compact) = .ok .named ∧
    Query.named.json.nesting ≤ 127 := by
  have hnesting : (Shape.query.json .named).nesting ≤ 127 := by decide
  have hexact : Query.namedInShort.IsExact :=
    ⟨trivial, Or.inl rfl, Value.isExact_signed Int64.minValue, trivial,
      ⟨trivial, ⟨⟨trivial, trivial, trivial⟩, trivial⟩, trivial⟩, trivial⟩
  have hcondition : Condition.Presented (.array [.string "name", .string "exists"])
      ⟨"name", "exists", []⟩ :=
    { record := Nat.le_succ 2
      field := .given (.string "name")
      operator := .given (.string "exists")
      operands := .absent rfl }
  have hpresented : Query.Presented Query.namedInShort .named :=
    { record := Nat.le_refl 5
      columns := .given (.array .nil)
      size := .given (.integer 7)
      offset := .given (.integer Int64.minValue)
      sortBy := .given (.array .nil)
      conditions := .given (.given (.intro (Nat.le_succ 2) (.given (.string (by decide)))
        (.given (.array (.cons hcondition .nil))) (.absent rfl))) }
  have hread : Shape.query.ofText (Query.namedInShort.text .compact) = .ok .named :=
    (Shape.ofText_text_iff hexact (by decide) .compact).mpr hpresented
  obtain ⟨hwritten, hagain⟩ := text_round_trip
  exact ⟨hwritten .query .named hnesting, hread, (hagain _ _ hread).1⟩

end SearchQuery
