import SearchQuery.Proofs.Json.Nesting
import SearchQuery.Proofs.Query.Reading

/-!
# What the reader accepts

The tree of a value is read, at any shape, as what the value presents, provided that the origin has
room for the containers of the value. A value that is part of a larger one always has room.

The proof is by induction on the value: one step of the reader asks of the tree what the grammar
asks of the value, and what is given to the fields are values again.

Main statement: `ofValue_eq_ok_iff_presents`.
-/

namespace SearchQuery

open Json

/-! ## Trees of values -/

theorem under_map {β γ : Type} (f : β → γ) (names : List String) (members : List (String × β)) :
    under names (members.map fun m => (m.1, f m.2)) = (under names members).map f := by
  induction members with
  | nil => rfl
  | cons m rest ih =>
    rw [List.map_cons, under_cons, under_cons, ih]
    split <;> rfl

theorem supplied_map_iff {α β γ : Type} {f : β → γ} {presents : γ → α → Prop}
    {default? : Option α} {given : List β} {a : α} :
    Supplied presents default? (given.map f) a ↔
      Supplied (fun v => presents (f v)) default? given a := by
  cases given with
  | nil => rw [List.map_nil, supplied_nil_iff, supplied_nil_iff]
  | cons v rest =>
    rw [List.map_cons, supplied_cons_iff, supplied_cons_iff, List.map_eq_nil_iff]

theorem supplied_congr {α β : Type} {presents presents' : β → α → Prop} {default? : Option α}
    {given : List β} {a : α} (h : ∀ v ∈ given, presents v a ↔ presents' v a) :
    Supplied presents default? given a ↔ Supplied presents' default? given a := by
  cases given with
  | nil => rw [supplied_nil_iff, supplied_nil_iff]
  | cons v rest => rw [supplied_cons_iff, supplied_cons_iff, h v List.mem_cons_self]

namespace Json

theorem Items.toList?_itemsTree (items : List Value) :
    (itemsTree items).toList? = some (items.map Value.tree) := by
  induction items with
  | nil => rfl
  | cons v rest ih => rw [itemsTree, toList?, ih, Option.map_some, List.map_cons]

theorem Members.toList?_membersTree (members : List (String × Value)) :
    (membersTree members).toList? = some (members.map fun m => (m.1, m.2.tree)) := by
  induction members with
  | nil => rfl
  | cons m rest ih =>
    obtain ⟨key, v⟩ := m
    rw [membersTree, toList?, ih, Option.map_some, List.map_cons]

mutual
/-- The text of a value breaks nowhere. -/
theorem Value.isWhole_tree : ∀ v : Value, v.tree.isWhole = true
  | .null | .bool _ | .number _ | .string _ => rfl
  | .array items => areWhole_itemsTree items
  | .object members => areWhole_membersTree members

theorem areWhole_itemsTree : ∀ items : List Value, (itemsTree items).areWhole = true
  | [] => rfl
  | v :: rest => by
    rw [itemsTree, Items.areWhole, Value.isWhole_tree v, areWhole_itemsTree rest, Bool.and_self]

theorem areWhole_membersTree : ∀ members : List (String × Value),
    (membersTree members).areWhole = true
  | [] => rfl
  | (_, v) :: rest => by
    rw [membersTree, Members.areWhole, Value.isWhole_tree v, areWhole_membersTree rest,
      Bool.and_self]
end

namespace Value

/-- The tree of a value gives to a field what the value gives to it. -/
theorem given_tree (place : Nat) (names : List String) (v : Value) :
    v.tree.given place names = (v.given place names).map tree := by
  cases v with
  | array items =>
    rw [tree, Tree.given, Items.toList?_itemsTree, Option.getD_some, given, List.getElem?_map,
      Option.toList_map]
  | object members =>
    rw [tree, Tree.given, Members.toList?_membersTree, Option.getD_some, under_map, given]
  | _ => rfl

/-- Nothing is skipped in the tree of a value that could break off. -/
theorem isRecord_tree_iff {fields : List Field} {v : Value} :
    v.tree.IsRecord fields ↔ v.IsRecord fields.length := by
  cases v with
  | array items => simp [tree, Tree.IsRecord, Items.toList?_itemsTree, IsRecord]
  | object members =>
    simp [tree, Tree.IsRecord, Members.toList?_membersTree, IsRecord, isWhole_tree]
  | _ => simp [tree, Tree.IsRecord, IsRecord]

/-- A record gives what it holds. -/
theorem mem_children_of_mem_given {place : Nat} {names : List String} {v w : Value}
    (h : w ∈ v.given place names) : w ∈ v.children := by
  cases v with
  | array items => exact List.mem_of_getElem? (Option.mem_toList.mp h)
  | object members =>
    obtain ⟨m, hm, rfl⟩ := List.mem_map.mp h
    exact List.mem_map_of_mem (List.mem_of_mem_filter hm)
  | _ => cases h

end Value

end Json

/-! ## Values -/

/-- So many more containers may be opened. -/
def Origin.Admits (n : Nat) : Origin → Prop
  | text room => n ≤ room
  | value => True

namespace Origin

variable {origin inner : Origin}

/-- Inside a container there is room for what it holds. -/
theorem Admits.of_enter {v : Value} (h : origin.Admits v.nesting)
    (hinner : origin.enter = .ok inner) : ∀ w ∈ v.children, inner.Admits w.nesting := by
  intro w hw
  have hlt : w.nesting < v.nesting := Value.nesting_lt_of_mem_children hw
  cases origin with
  | value =>
    obtain rfl := Except.ok.inj hinner
    trivial
  | text room =>
    have hroom : v.nesting ≤ room := h
    cases room with
    | zero => cases hinner
    | succ room =>
      obtain rfl := Except.ok.inj hinner
      show w.nesting ≤ room
      omega

/-- Where there is room for a container it can be opened. -/
theorem Admits.exists_enter {n : Nat} (h : origin.Admits (n + 1)) :
    ∃ inner, origin.enter = .ok inner := by
  cases origin with
  | value => exact ⟨value, rfl⟩
  | text room =>
    cases room with
    | zero => exact absurd h (Nat.not_succ_le_zero n)
    | succ room => exact ⟨text room, rfl⟩

end Origin

/-- A value presents a record made of fields if it is `null`, and that may stand for the record, or
if it supplies every field. -/
def RecordPresents {α : Type} (onNull : Option α) (fields : List Field) (make : Values fields → α)
    (v : Value) (a : α) : Prop :=
  (v = .null ∧ onNull = some a) ∨ ∃ values, v.IsRecord fields.length ∧
    FieldsSupplied Shape.Presents v.given 0 fields values ∧ make values = a

/-- A record is a container. -/
theorem Json.Value.IsRecord.exists_nesting_eq {v : Value} {n : Nat} (h : v.IsRecord n) :
    ∃ m, v.nesting = m + 1 := by
  cases v with
  | array items => exact ⟨_, rfl⟩
  | object members => exact ⟨_, rfl⟩
  | _ => cases h

theorem forall₂_congr_of_mem {α β : Type} {R S : α → β → Prop} {xs : List α} {ys : List β}
    (h : ∀ x ∈ xs, ∀ y, R x y ↔ S x y) : List.Forall₂ R xs ys ↔ List.Forall₂ S xs ys := by
  induction xs generalizing ys with
  | nil => rw [List.forall₂_nil_left_iff, List.forall₂_nil_left_iff]
  | cons x rest ih =>
    obtain ⟨hx, hrest⟩ := List.forall_mem_cons.mp h
    simp only [List.forall₂_cons_left_iff, hx, ih hrest]

/-- Wherever there is room for a value, what is read from its tree is what the value presents. -/
def Json.Value.IsReadAsPresented (v : Value) : Prop :=
  ∀ (origin : Origin) (s : Shape) (a : s.Carrier), origin.Admits v.nesting →
    (v.tree.read origin s = .ok a ↔ s.Presents v a)

section
variable {v : Value} {origin : Origin} (hroom : origin.Admits v.nesting)
include hroom

theorem read_tree_choice_iff {s : Shape} {names : List (String × s.Carrier)}
    (hs : s.form = .choice names) (hnames : (names.map (·.1)).Nodup) {a : s.Carrier} :
    v.tree.read origin s = .ok a ↔ OneOf names v a := by
  rw [Tree.read_choice_iff hs hnames]
  constructor
  · rintro (⟨name, hmem, hv⟩ | ⟨inner, name, -, hmem, hv⟩)
    · obtain rfl : v = .string name := Value.tree_inj hv
      exact .string hmem
    · obtain rfl : v = .object [(name, .null)] := Value.tree_inj hv
      exact .object hmem
  · rintro (hmem | hmem)
    · exact Or.inl ⟨_, hmem, rfl⟩
    · obtain ⟨inner, hinner⟩ := hroom.exists_enter
      exact Or.inr ⟨inner, _, hinner, hmem, rfl⟩

variable (ih : ∀ w ∈ v.children, w.IsReadAsPresented)
include ih

theorem read_tree_list_iff {item : Shape} {xs : List item.Carrier} :
    v.tree.read origin (.list item) = .ok xs ↔ ListOf item.Presents v xs := by
  have hitems {inner : Origin} (hinner : origin.enter = .ok inner) :
      List.Forall₂ (fun w x => w.tree.read inner item = .ok x) v.children xs ↔
        List.Forall₂ item.Presents v.children xs :=
    forall₂_congr_of_mem fun w hw x => ih w hw inner item x (hroom.of_enter hinner w hw)
  rw [Tree.read_list_iff]
  constructor
  · rintro ⟨inner, items, ts, hinner, hv, hts, hread⟩
    cases v with
    | array items =>
      obtain rfl := Tree.array.inj hv
      obtain rfl := Option.some.inj ((Items.toList?_itemsTree items).symm.trans hts)
      exact .array ((hitems hinner).mp (List.forall₂_map_left_iff.mp hread))
    | _ => cases hv
  · rintro ⟨hpresents⟩
    obtain ⟨inner, hinner⟩ := hroom.exists_enter
    exact ⟨inner, _, _, hinner, rfl, Items.toList?_itemsTree _,
      List.forall₂_map_left_iff.mpr ((hitems hinner).mpr hpresents)⟩

theorem read_tree_record_iff {s : Shape} {title : String} {onNull : Option s.Carrier}
    {fields : List Field} {make : Values fields → s.Carrier}
    (hs : s.form = .record title onNull fields make) (hnames : (fields.flatMap Field.names).Nodup)
    {a : s.Carrier} :
    v.tree.read origin s = .ok a ↔ RecordPresents onNull fields make v a := by
  -- what a field is given stands inside the container, so the induction hypothesis applies to it
  have hfields {inner : Origin} (hinner : origin.enter = .ok inner) (values : Values fields) :
      FieldsSupplied (Reads inner) v.tree.given 0 fields values ↔
        FieldsSupplied Shape.Presents v.given 0 fields values := by
    refine fieldsSupplied_congr fun place _ names s default? a => ?_
    rw [Value.given_tree, supplied_map_iff]
    refine supplied_congr fun w hw => ?_
    have hchild : w ∈ v.children := Value.mem_children_of_mem_given hw
    exact ih w hchild inner s a (hroom.of_enter hinner w hchild)
  rw [Tree.read_record_iff hs hnames]
  constructor
  · rintro (⟨hv, ha⟩ | ⟨inner, values, hinner, hrecord, hsupplied, rfl⟩)
    · exact Or.inl ⟨Value.tree_inj hv, ha⟩
    · exact Or.inr ⟨values, Value.isRecord_tree_iff.mp hrecord,
        (hfields hinner values).mp hsupplied, rfl⟩
  · rintro (⟨rfl, ha⟩ | ⟨values, hrecord, hsupplied, rfl⟩)
    · exact Or.inl ⟨rfl, ha⟩
    · obtain ⟨m, hm⟩ := hrecord.exists_nesting_eq
      rw [hm] at hroom
      obtain ⟨inner, hinner⟩ := hroom.exists_enter
      exact Or.inr ⟨inner, values, hinner, Value.isRecord_tree_iff.mpr hrecord,
        (hfields hinner values).mpr hsupplied, rfl⟩

end

/-! ## The grammar -/

section
variable {v : Value}

theorem Condition.recordPresents_iff {c : Condition} :
    RecordPresents none fields (fun (f, o, xs, ()) => ⟨f, o, xs⟩) v c ↔ Presented v c := by
  constructor
  · rintro (⟨-, ⟨⟩⟩ | ⟨⟨f, o, xs, ⟨⟩⟩, hrecord, ⟨hfield, hoperator, hoperands, -⟩, rfl⟩)
    exact ⟨hrecord, hfield, hoperator, hoperands⟩
  · rintro ⟨hrecord, hfield, hoperator, hoperands⟩
    exact Or.inr ⟨(c.field, c.operator, c.operands, ()), hrecord,
      ⟨hfield, hoperator, hoperands, trivial⟩, rfl⟩

theorem ConditionGroup.recordPresents_iff {g : ConditionGroup} :
    RecordPresents none fields (fun (o, cs, gs, ()) => ⟨o, cs, gs⟩) v g ↔ Presented v g := by
  constructor
  · rintro (⟨-, ⟨⟩⟩ | ⟨⟨o, cs, gs, ⟨⟩⟩, hrecord, ⟨hoperator, hconditions, hgroups, -⟩, rfl⟩)
    exact ⟨hrecord, hoperator, hconditions, hgroups⟩
  · rintro ⟨hrecord, hoperator, hconditions, hgroups⟩
    exact Or.inr ⟨(_, _, _, ()), hrecord, ⟨hoperator, hconditions, hgroups, trivial⟩, rfl⟩

theorem ConditionGroup.recordPresents_orNull_iff {g : Option ConditionGroup} :
    RecordPresents (some none) fields (fun (o, cs, gs, ()) => some ⟨o, cs, gs⟩) v g ↔
      OrNull Presented v g := by
  constructor
  · rintro (⟨rfl, ⟨⟩⟩ | ⟨⟨o, cs, gs, ⟨⟩⟩, hrecord, hfields, rfl⟩)
    · exact .null
    · exact .given (recordPresents_iff.mp (Or.inr ⟨(o, cs, gs, ()), hrecord, hfields, rfl⟩))
  · rintro (_ | hgroup)
    · exact Or.inl ⟨rfl, rfl⟩
    · obtain ⟨-, ⟨⟩⟩ | ⟨values, hrecord, hfields, rfl⟩ := recordPresents_iff.mpr hgroup
      exact Or.inr ⟨values, hrecord, hfields, rfl⟩

theorem SortKey.recordPresents_iff {k : SortKey} :
    RecordPresents none fields (fun (f, d, ()) => ⟨f, d⟩) v k ↔ Presented v k := by
  constructor
  · rintro (⟨-, ⟨⟩⟩ | ⟨⟨f, d, ⟨⟩⟩, hrecord, ⟨hfield, hdirection, -⟩, rfl⟩)
    exact ⟨hrecord, hfield, hdirection⟩
  · rintro ⟨hrecord, hfield, hdirection⟩
    exact Or.inr ⟨(k.field, k.direction, ()), hrecord, ⟨hfield, hdirection, trivial⟩, rfl⟩

theorem Query.recordPresents_iff {q : Query} :
    RecordPresents none fields (fun (columns, size, offset, sortBy, conditions, ()) =>
      ⟨columns, size, offset, sortBy, conditions⟩) v q ↔ Presented v q := by
  constructor
  · rintro (⟨-, ⟨⟩⟩ | ⟨⟨columns, size, offset, sortBy, conditions, ⟨⟩⟩, hrecord,
      ⟨hcolumns, hsize, hoffset, hsortBy, hconditions, -⟩, rfl⟩)
    exact ⟨hrecord, hcolumns, hsize, hoffset, hsortBy, hconditions⟩
  · rintro ⟨hrecord, hcolumns, hsize, hoffset, hsortBy, hconditions⟩
    exact Or.inr ⟨(q.columns, q.size, q.offset, q.sortBy, q.conditions, ()), hrecord,
      ⟨hcolumns, hsize, hoffset, hsortBy, hconditions, trivial⟩, rfl⟩

theorem CompileOptions.recordPresents_iff {o : CompileOptions} :
    RecordPresents none fields (fun (d, p, ()) => ⟨d, p⟩) v o ↔ Presented v o := by
  constructor
  · rintro (⟨-, ⟨⟩⟩ | ⟨⟨d, p, ⟨⟩⟩, hrecord, ⟨hmaxDepth, honUnsupported, -⟩, rfl⟩)
    exact ⟨hrecord, hmaxDepth, honUnsupported⟩
  · rintro ⟨hrecord, hmaxDepth, honUnsupported⟩
    exact Or.inr ⟨(o.maxDepth, o.onUnsupported, ()), hrecord,
      ⟨hmaxDepth, honUnsupported, trivial⟩, rfl⟩

end

/-- The tree of a value is read as what the value presents. -/
theorem Json.Value.isReadAsPresented (v : Value) : v.IsReadAsPresented := by
  induction v using Value.induction with
  | step v ih =>
    intro origin s a hroom
    have hrecord {title : String} {onNull : Option s.Carrier} {fields : List Field}
        {make : Values fields → s.Carrier} (hs : s.form = .record title onNull fields make)
        (hnames : (fields.flatMap Field.names).Nodup) :
        v.tree.read origin s = .ok a ↔ RecordPresents onNull fields make v a :=
      read_tree_record_iff hroom ih hs hnames
    cases s with
    | text =>
      rw [Tree.read_text_iff]
      constructor
      · intro hv
        obtain rfl : v = .string a := Value.tree_inj hv
        exact .string a
      · intro hv
        cases hv
        rfl
    | integer =>
      rw [Tree.read_integer_iff]
      constructor
      · intro hv
        obtain rfl : v = .int a.toInt := Value.tree_inj hv
        exact .integer a
      · intro hv
        cases hv
        rfl
    | count =>
      rw [Tree.read_count_iff]
      constructor
      · intro hv
        obtain rfl : v = .int a.toNat := Value.tree_inj hv
        exact .integer a
      · intro hv
        cases hv
        rfl
    | groupOperator => exact read_tree_choice_iff hroom rfl (by decide)
    | sortDirection => exact read_tree_choice_iff hroom rfl (by decide)
    | policy => exact read_tree_choice_iff hroom rfl (by decide)
    | list item => exact read_tree_list_iff hroom ih
    | condition => exact (hrecord rfl (by decide)).trans Condition.recordPresents_iff
    | group => exact (hrecord rfl (by decide)).trans ConditionGroup.recordPresents_iff
    | optionalGroup =>
      exact (hrecord rfl (by decide)).trans ConditionGroup.recordPresents_orNull_iff
    | sortKey => exact (hrecord rfl (by decide)).trans SortKey.recordPresents_iff
    | query => exact (hrecord rfl (by decide)).trans Query.recordPresents_iff
    | options => exact (hrecord rfl (by decide)).trans CompileOptions.recordPresents_iff

/-- A value that is part of a larger one is read exactly if it presents something, and then as
that. -/
theorem ofValue_eq_ok_iff_presents (s : Shape) (v : Value) (a : s.Carrier) :
    s.ofValue v = .ok a ↔ s.Presents v a :=
  v.isReadAsPresented .value s a trivial

end SearchQuery
