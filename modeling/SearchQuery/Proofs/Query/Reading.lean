import SearchQuery.Proofs.Query.Presentation
import SearchQuery.Query.Reader

/-!
# One step of the reader

One step of the reader, on a tree and a shape, succeeds exactly if the tree has the form of the
shape and the trees in it are read at the shapes of its fields or items. This is said here for every
tree, also of a text that breaks off, and for both origins. No other module looks into the reader.

Main statements: `Json.Tree.read_list_iff`, `Json.Tree.read_choice_iff`,
`Json.Tree.read_record_iff`.
-/

namespace SearchQuery

open Json

/-! ## Results that may be missing -/

section
variable {ε α β : Type}

theorem bind_eq_ok_iff {x : Except ε α} {f : α → Except ε β} {b : β} :
    (x >>= f) = .ok b ↔ ∃ a, x = .ok a ∧ f a = .ok b := by
  cases x <;> simp [bind, Except.bind]

theorem map_eq_ok_iff {x : Except ε α} {f : α → β} {b : β} :
    x.map f = .ok b ↔ ∃ a, x = .ok a ∧ f a = b := by
  cases x <;> simp [Except.map]

theorem pure_eq_ok_iff {a b : α} : (pure a : Except ε α) = .ok b ↔ a = b :=
  ⟨Except.ok.inj, congrArg _⟩

end

/-! ## Items and members of a tree -/

/-- The items of an array that is not cut off. -/
def Json.Items.toList? : Items → Option (List Tree)
  | .closed => some []
  | .cut => none
  | .item t rest => rest.toList?.map (t :: ·)

/-- The members of an object that is not cut off, if all keys denote something. -/
def Json.Members.toList? : Members → Option (List (String × Tree))
  | .closed => some []
  | .member (some key) t rest => rest.toList?.map ((key, t) :: ·)
  | _ => none

/-- All names of a field. -/
def Field.names (f : Field) : List String := f.name :: f.aliases

theorem Field.answersTo_eq_contains (f : Field) (key : String) :
    f.answersTo key = f.names.contains key := by
  rw [answersTo, names, List.contains_cons]
  rfl

namespace Json.Tree

/-- A record that may be read into these fields: an array that is not too long, or an object in
which the text breaks nowhere where it is skipped. -/
def IsRecord (fields : List Field) : Tree → Prop
  | object members => ∃ ms, members.toList? = some ms ∧
      ∀ m ∈ ms, (∀ f ∈ fields, f.answersTo m.1 = false) → m.2.isWhole = true
  | array items => ∃ ts, items.toList? = some ts ∧ ts.length ≤ fields.length
  | _ => False

/-- What a record gives to one of its fields. -/
def given (place : Nat) (names : List String) : Tree → List Tree
  | object members => under names (members.toList?.getD [])
  | array items => (items.toList?.getD [])[place]?.toList
  | _ => []

end Json.Tree

/-! ## Leaves, lists and choices -/

namespace Json.Tree

variable {origin : Origin} {t : Tree}

theorem read_text_iff {x : String} :
    t.read origin .text = .ok x ↔ t = .string (some x) := by
  rcases t with _ | _ | n | (_ | s) | _ | _ | _ <;>
    simp [read, readLeaf, Shape.form]

theorem read_integer_iff {x : Int64} :
    t.read origin .integer = .ok x ↔ t = .number (some (.integer x.toInt)) := by
  rcases t with _ | _ | (_ | n | y) | (_ | s) | _ | _ | _
  case number.some.integer =>
    have hread : (number (some (.integer n))).read origin .integer = .ok x ↔
        signed? n = some x := by
      simp only [read, readLeaf, Shape.form]
      cases signed? n <;> simp
    rw [hread, signed?_eq_some_iff, eq_comm]
    simp
  all_goals simp [read, readLeaf, Shape.form]

theorem read_count_iff {x : UInt64} :
    t.read origin .count = .ok x ↔ t = .number (some (.integer x.toNat)) := by
  rcases t with _ | _ | (_ | n | y) | (_ | s) | _ | _ | _
  case number.some.integer =>
    have hread : (number (some (.integer n))).read origin .count = .ok x ↔
        unsigned? n = some x := by
      simp only [read, readLeaf, Shape.form]
      cases unsigned? n <;> simp
    rw [hread, unsigned?_eq_some_iff, eq_comm]
    simp
  all_goals simp [read, readLeaf, Shape.form]

end Json.Tree

/-- The items of a list are all read. -/
theorem Json.Items.readList_iff {origin : Origin} {shape : Shape} :
    ∀ {items : Items} {xs : List shape.Carrier}, items.readList origin shape = .ok xs ↔
      ∃ ts, items.toList? = some ts ∧ List.Forall₂ (fun t x => t.read origin shape = .ok x) ts xs
  | .closed, xs => by simp [readList, toList?, eq_comm]
  | .cut, xs => by simp [readList, toList?]
  | .item t rest, xs => by
    simp only [readList, toList?, bind_eq_ok_iff, pure_eq_ok_iff, readList_iff,
      Option.map_eq_some_iff]
    constructor
    · rintro ⟨x, hx, _, ⟨ts, hts, hrest⟩, rfl⟩
      exact ⟨t :: ts, ⟨ts, hts, rfl⟩, .cons hx hrest⟩
    · rintro ⟨_, ⟨ts, hts, rfl⟩, _ | ⟨hx, hrest⟩⟩
      exact ⟨_, hx, _, ⟨ts, hts, hrest⟩, rfl⟩

namespace Json.Tree

variable {origin : Origin} {t : Tree}

theorem read_list_iff {item : Shape} {xs : List item.Carrier} :
    t.read origin (.list item) = .ok xs ↔
      ∃ inner items ts, origin.enter = .ok inner ∧ t = .array items ∧ items.toList? = some ts ∧
        List.Forall₂ (fun t x => t.read inner item = .ok x) ts xs := by
  rcases t with _ | _ | n | s | items | _ | _
  case array =>
    simp only [read, Shape.form, bind_eq_ok_iff, pure_eq_ok_iff, Items.readList_iff, id]
    constructor
    · rintro ⟨inner, hinner, _, ⟨ts, hts, hread⟩, rfl⟩
      exact ⟨inner, items, ts, hinner, rfl, hts, hread⟩
    · rintro ⟨inner, _, ts, hinner, ⟨⟩, hts, hread⟩
      exact ⟨inner, hinner, xs, ⟨ts, hts, hread⟩, rfl⟩
  all_goals simp [read, readLeaf, Shape.form]

end Json.Tree

/-- If no name stands twice, a name chooses whatever stands beside it. -/
theorem choose_eq_ok_iff {α : Type} {names : List (String × α)} (hnames : (names.map (·.1)).Nodup)
    {name : String} {a : α} : choose names name = .ok a ↔ (name, a) ∈ names := by
  rw [← lookup_eq_some_iff_mem hnames]
  unfold choose
  cases names.lookup name <;> simp

/-- An object chooses if it has a single key and nothing under it. -/
theorem Json.Members.readChoice_iff {α : Type} {origin : Origin} {names : List (String × α)}
    {members : Members} {a : α} :
    members.readChoice origin names = .ok a ↔
      ∃ name, choose names name = .ok a ∧ members = .member (some name) .null .closed := by
  rcases members with _ | _ | head | ⟨_ | key, t, rest⟩
  case member.some =>
    cases origin <;> cases rest <;> cases t <;>
      simp [readChoice, bind_eq_ok_iff]
  all_goals cases origin <;> simp [readChoice]

namespace Json.Tree

variable {origin : Origin} {t : Tree}

theorem read_choice_iff {s : Shape} {names : List (String × s.Carrier)}
    (hs : s.form = .choice names) (hnames : (names.map (·.1)).Nodup) {a : s.Carrier} :
    t.read origin s = .ok a ↔
      (∃ name, (name, a) ∈ names ∧ t = .string (some name)) ∨
      ∃ inner name, origin.enter = .ok inner ∧ (name, a) ∈ names ∧
        t = .object (.member (some name) .null .closed) := by
  rcases t with _ | _ | n | (_ | x) | _ | members | _
  case string.some =>
    simp [read, readLeaf, hs, choose_eq_ok_iff hnames]
  case object =>
    simp [read, hs, bind_eq_ok_iff, Members.readChoice_iff, choose_eq_ok_iff hnames]
  all_goals
    rw [read] <;> cases origin <;> simp [readLeaf, hs]

end Json.Tree

/-! ## Records -/

/-- Every field has what presents it among what it is given, or its default. -/
def FieldsSupplied {β : Type} (presents : (s : Shape) → β → s.Carrier → Prop)
    (given : Nat → List String → List β) : Nat → (fields : List Field) → Values fields → Prop
  | _, [], () => True
  | place, f :: fs, (a, values) =>
    Supplied (presents f.shape) f.default? (given place f.names) a ∧
      FieldsSupplied presents given (place + 1) fs values

/-- What a tree is read as at a shape, as a relation. -/
def Reads (origin : Origin) (s : Shape) (t : Tree) (a : s.Carrier) : Prop :=
  t.read origin s = .ok a

/-- What is given counts only from the next place on. -/
theorem fieldsSupplied_congr {β γ : Type} {presents : (s : Shape) → β → s.Carrier → Prop}
    {presents' : (s : Shape) → γ → s.Carrier → Prop} {given : Nat → List String → List β}
    {given' : Nat → List String → List γ} {fields : List Field} {values : Values fields}
    {place : Nat}
    (h : ∀ p ≥ place, ∀ names (s : Shape) (default? : Option s.Carrier) (a : s.Carrier),
      Supplied (presents s) default? (given p names) a ↔
        Supplied (presents' s) default? (given' p names) a) :
    FieldsSupplied presents given place fields values ↔
      FieldsSupplied presents' given' place fields values := by
  induction fields generalizing place with
  | nil => exact Iff.rfl
  | cons f fs ih =>
    obtain ⟨a, rest⟩ := values
    rw [FieldsSupplied, FieldsSupplied, h place (Nat.le_refl _),
      ih fun p hp => h p (Nat.le_of_succ_le hp)]

theorem supplied_nil_iff {α β : Type} {presents : β → α → Prop} {default? : Option α} {a : α} :
    Supplied presents default? [] a ↔ default? = some a :=
  ⟨fun | .absent h => h, .absent⟩

theorem supplied_cons_iff {α β : Type} {presents : β → α → Prop} {default? : Option α} {v : β}
    {rest : List β} {a : α} :
    Supplied presents default? (v :: rest) a ↔ rest = [] ∧ presents v a := by
  constructor
  · rintro ⟨h⟩
    exact ⟨rfl, h⟩
  · rintro ⟨rfl, h⟩
    exact .given h

/-! ### Arrays -/

/-- Fields behind the end of an array have their defaults. -/
theorem defaults_eq_ok_iff {wanted : String} {presents : (s : Shape) → Tree → s.Carrier → Prop}
    {given : Nat → List String → List Tree} {fields : List Field} {index place : Nat}
    {values : Values fields} (hgiven : ∀ p ≥ place, ∀ names, given p names = []) :
    defaults wanted fields index = .ok values ↔
      FieldsSupplied presents given place fields values := by
  induction fields generalizing index place with
  | nil => simp [defaults, FieldsSupplied]
  | cons f fs ih =>
    obtain ⟨a, rest⟩ := values
    have hrest : defaults wanted fs (index + 1) = .ok rest ↔
        FieldsSupplied presents given (place + 1) fs rest :=
      ih fun p hp => hgiven p (Nat.le_of_succ_le hp)
    rw [FieldsSupplied, hgiven place (Nat.le_refl _), supplied_nil_iff, ← hrest, defaults]
    cases f.default? with
    | none => simp
    | some v => simp [map_eq_ok_iff, Prod.ext_iff, and_comm]

/-- The items of an array are read into the fields at their places, which are counted from the items
that have been read before. -/
theorem Json.Items.readFields_iff {origin : Origin} {wanted : String} :
    ∀ {items : Items} {fields : List Field} {index : Nat} {values : Values fields}
      (before : List Tree), items.readFields origin wanted fields index = .ok values ↔
      ∃ ts, items.toList? = some ts ∧ ts.length ≤ fields.length ∧
        FieldsSupplied (Reads origin) (fun place _ => (before ++ ts)[place]?.toList)
          before.length fields values
  | .closed, fields, index, values, before => by
    have hgiven : ∀ p ≥ before.length, ∀ _ : List String,
        (before ++ ([] : List Tree))[p]?.toList = [] := by
      intro p hp _
      simp [List.getElem?_eq_none hp]
    simp only [readFields, toList?, Option.some.injEq, exists_eq_left', List.length_nil,
      Nat.zero_le, true_and]
    exact defaults_eq_ok_iff hgiven
  | .cut, fields, index, values, before => by
    simp [readFields, toList?]
  | .item t rest, [], index, values, before => by
    simp [readFields, toList?]
  | .item t rest, f :: fs, index, (a, values), before => by
    have hhead (ts : List Tree) : (before ++ t :: ts)[before.length]?.toList = [t] := by simp
    have htail (ts : List Tree) : before ++ t :: ts = (before ++ [t]) ++ ts := by simp
    have hlength : before.length + 1 = (before ++ [t]).length := by simp
    simp only [readFields, toList?, bind_eq_ok_iff, pure_eq_ok_iff, Option.map_eq_some_iff,
      FieldsSupplied]
    constructor
    · rintro ⟨x, hx, xs, hxs, heq⟩
      obtain ⟨rfl, rfl⟩ := Prod.mk.inj heq
      obtain ⟨ts, hts, hshort, hsupplied⟩ := (readFields_iff (before ++ [t])).mp hxs
      refine ⟨t :: ts, ⟨ts, hts, rfl⟩, Nat.succ_le_succ hshort, ?_, ?_⟩
      · rw [hhead]
        exact .given hx
      · rw [htail, hlength]
        exact hsupplied
    · rintro ⟨_, ⟨ts, hts, rfl⟩, hshort, hfirst, hsupplied⟩
      rw [hhead, supplied_cons_iff] at hfirst
      rw [htail, hlength] at hsupplied
      have hxs : rest.readFields origin wanted fs (index + 1) = .ok values :=
        (readFields_iff (before ++ [t])).mpr ⟨ts, hts, Nat.le_of_succ_le_succ hshort, hsupplied⟩
      exact ⟨a, hfirst.2, values, hxs, rfl⟩

/-! ### Objects -/

/-- What a field has been given and what it is still to be given make up its value: if it has been
given something, nothing more may come. -/
def Field.Completed (origin : Origin) (f : Field) (slot : Option f.shape.Carrier)
    (given : List Tree) (a : f.shape.Carrier) : Prop :=
  match slot with
  | some x => given = [] ∧ x = a
  | none => Supplied (Reads origin f.shape) f.default? given a

/-- The members that are still to come complete what the fields have been given so far. -/
def Slots.Completed (origin : Origin) (members : List (String × Tree)) :
    (fields : List Field) → Slots fields → Values fields → Prop
  | [], (), () => True
  | f :: fs, (slot, slots), (a, values) =>
    f.Completed origin slot (under f.names members) a ∧
      Completed origin members fs slots values

namespace Slots

variable {origin : Origin} {members : List (String × Tree)}

/-- At the beginning everything is given by the members to come. -/
theorem completed_empty_iff {fields : List Field} {values : Values fields} {place : Nat} :
    Completed origin members fields (empty fields) values ↔
      FieldsSupplied (Reads origin) (fun _ names => under names members) place fields values := by
  induction fields generalizing place with
  | nil => exact Iff.rfl
  | cons f fs ih =>
    obtain ⟨a, rest⟩ := values
    rw [empty, Completed, FieldsSupplied, ih]
    exact Iff.rfl

/-- In the end a field that has been given nothing has its default. -/
theorem finish_eq_ok_iff {fields : List Field} {slots : Slots fields} {values : Values fields} :
    finish fields slots = .ok values ↔ Completed origin [] fields slots values := by
  induction fields with
  | nil => simp [finish, Completed]
  | cons f fs ih =>
    obtain ⟨slot, slots⟩ := slots
    obtain ⟨a, values⟩ := values
    have hfield : f.Completed origin slot (under f.names []) a ↔ slot.or f.default? = some a := by
      cases slot with
      | none => exact supplied_nil_iff
      | some x => simp [Field.Completed, under]
    rw [Completed, hfield, ← ih, finish]
    cases slot.or f.default? with
    | none => simp
    | some v => simp [map_eq_ok_iff, Prod.ext_iff, and_comm]

/-- A member that no field asks for changes nothing. -/
theorem completed_cons_of_not_answersTo {key : String} {t : Tree} {fields : List Field}
    {slots : Slots fields} {values : Values fields}
    (h : ∀ f ∈ fields, f.answersTo key = false) :
    Completed origin ((key, t) :: members) fields slots values ↔
      Completed origin members fields slots values := by
  induction fields with
  | nil => exact Iff.rfl
  | cons f fs ih =>
    obtain ⟨slot, slots⟩ := slots
    obtain ⟨a, values⟩ := values
    obtain ⟨hf, hfs⟩ := List.forall_mem_cons.mp h
    rw [Field.answersTo_eq_contains] at hf
    rw [Completed, Completed, under_cons, hf, ih hfs]
    exact Iff.rfl

/-- The field that asks for a member is given it, if it has no value yet. -/
theorem place_of_answersTo {key : String} {t : Tree} {skip : Except ReadError Unit} {f : Field}
    {fs : List Field} (hf : f.answersTo key = true) (hfs : ∀ g ∈ fs, g.answersTo key = false)
    {slot : Option f.shape.Carrier} {slots : Slots fs} {values : Values (f :: fs)} :
    (∃ next, place key (t.read origin) skip (f :: fs) (slot, slots) = .ok next ∧
        Completed origin members (f :: fs) next values) ↔
      Completed origin ((key, t) :: members) (f :: fs) (slot, slots) values := by
  obtain ⟨a, values⟩ := values
  have hunder : under f.names ((key, t) :: members) = t :: under f.names members := by
    rw [under_cons, ← Field.answersTo_eq_contains, if_pos hf]
  rw [Completed, hunder, completed_cons_of_not_answersTo hfs]
  cases slot with
  | some x =>
    rw [place, if_pos hf]
    simp [Field.Completed]
  | none =>
    rw [place, if_pos hf]
    simp only [map_eq_ok_iff, Field.Completed, supplied_cons_iff]
    constructor
    · rintro ⟨_, ⟨x, hx, rfl⟩, ⟨hnone, rfl⟩, hvalues⟩
      exact ⟨⟨hnone, hx⟩, hvalues⟩
    · rintro ⟨⟨hnone, hx⟩, hvalues⟩
      exact ⟨_, ⟨a, hx, rfl⟩, ⟨hnone, rfl⟩, hvalues⟩

/-- A field that does not ask for a member is passed over. -/
theorem place_of_not_answersTo {key : String} {read : (s : Shape) → Except ReadError s.Carrier}
    {skip : Except ReadError Unit} {f : Field} {fs : List Field} (hf : f.answersTo key = false)
    (slot : Option f.shape.Carrier) (slots : Slots fs) :
    place key read skip (f :: fs) (slot, slots) =
      (place key read skip fs slots).map fun rest => (slot, rest) := by
  cases slot <;> simp [place, hf]

/-- A member completes the fields with those behind it exactly if it can be placed: in the field
that asks for it, if that has no value yet, or nowhere, if it may be skipped. -/
theorem place_iff {key : String} {t : Tree} {skip : Except ReadError Unit} {fields : List Field}
    (hnames : (fields.flatMap Field.names).Nodup) {slots : Slots fields} {values : Values fields} :
    (∃ next, place key (t.read origin) skip fields slots = .ok next ∧
        Completed origin members fields next values) ↔
      ((∀ f ∈ fields, f.answersTo key = false) → skip = .ok ()) ∧
        Completed origin ((key, t) :: members) fields slots values := by
  induction fields with
  | nil =>
    simp only [place, Completed, and_true, List.not_mem_nil, false_implies, implies_true,
      true_implies]
    exact ⟨fun ⟨(), h⟩ => h, fun h => ⟨(), h⟩⟩
  | cons f fs ih =>
    rw [List.flatMap_cons] at hnames
    obtain ⟨-, hrest, hdisjoint⟩ := List.nodup_append.mp hnames
    obtain ⟨slot, slots⟩ := slots
    by_cases hf : f.answersTo key = true
    · -- no field behind this one asks for the member too
      have hfs : ∀ g ∈ fs, g.answersTo key = false := by
        intro g hg
        rw [Field.answersTo_eq_contains] at hf ⊢
        by_contra hkey
        have hmem : key ∈ fs.flatMap Field.names :=
          List.mem_flatMap.mpr ⟨g, hg, by simpa using hkey⟩
        exact hdisjoint key (by simpa using hf) key hmem rfl
      rw [place_of_answersTo hf hfs]
      simp [hf]
    · obtain ⟨a, values⟩ := values
      have hf' : f.answersTo key = false := by simpa using hf
      have hunder : under f.names ((key, t) :: members) = under f.names members := by
        rw [under_cons, ← Field.answersTo_eq_contains, if_neg hf]
      rw [place_of_not_answersTo hf', Completed, hunder]
      simp only [map_eq_ok_iff, List.forall_mem_cons, hf', true_and]
      constructor
      · rintro ⟨_, ⟨next, hnext, rfl⟩, hfield, hvalues⟩
        obtain ⟨hskip, hcompleted⟩ := (ih hrest).mp ⟨next, hnext, hvalues⟩
        exact ⟨hskip, hfield, hcompleted⟩
      · rintro ⟨hskip, hfield, hcompleted⟩
        obtain ⟨next, hnext, hvalues⟩ := (ih hrest).mpr ⟨hskip, hcompleted⟩
        exact ⟨_, ⟨next, hnext, rfl⟩, hfield, hvalues⟩

end Slots

/-- The members of an object are read into the fields that ask for them. -/
theorem Json.Members.readSlots_iff {origin : Origin} {fields : List Field}
    (hnames : (fields.flatMap Field.names).Nodup) : ∀ {members : Members} {slots : Slots fields}
      {values : Values fields},
    (∃ filled, members.readSlots origin fields slots = .ok filled ∧
        Slots.finish fields filled = .ok values) ↔
      ∃ ms, members.toList? = some ms ∧
        (∀ m ∈ ms, (∀ f ∈ fields, f.answersTo m.1 = false) → m.2.isWhole = true) ∧
        Slots.Completed origin ms fields slots values
  | .closed, slots, values => by
    simp [readSlots, toList?, ← Slots.finish_eq_ok_iff]
  | .cut, _, _ => by simp [readSlots, toList?]
  | .misnamed _, _, _ => by simp [readSlots, toList?]
  | .member none _ _, _, _ => by simp [readSlots, toList?]
  | .member (some key) t rest, slots, values => by
    have hskip : (if t.isWhole then .ok () else .error ReadError.malformed) = Except.ok () ↔
        t.isWhole = true := by
      cases t.isWhole <;> simp
    simp only [readSlots, toList?, bind_eq_ok_iff, Option.map_eq_some_iff]
    constructor
    · rintro ⟨filled, ⟨next, hnext, hrest⟩, hfilled⟩
      obtain ⟨ms, hms, hwhole, hcompleted⟩ :=
        (readSlots_iff hnames).mp ⟨filled, hrest, hfilled⟩
      obtain ⟨ht, hcompleted⟩ := (Slots.place_iff hnames).mp ⟨next, hnext, hcompleted⟩
      rw [hskip] at ht
      exact ⟨_, ⟨ms, hms, rfl⟩, List.forall_mem_cons.mpr ⟨ht, hwhole⟩, hcompleted⟩
    · rintro ⟨_, ⟨ms, hms, rfl⟩, hwhole, hcompleted⟩
      obtain ⟨ht, hwhole⟩ := List.forall_mem_cons.mp hwhole
      rw [← hskip] at ht
      obtain ⟨next, hnext, hcompleted⟩ := (Slots.place_iff hnames).mpr ⟨ht, hcompleted⟩
      obtain ⟨filled, hrest, hfilled⟩ := (readSlots_iff hnames).mpr ⟨ms, hms, hwhole, hcompleted⟩
      exact ⟨filled, ⟨next, hnext, hrest⟩, hfilled⟩

/-- A record is read from `null`, if that may stand for one, or from an array or an object that
supplies all its fields. -/
theorem Json.Tree.read_record_iff {s : Shape} {title : String} {onNull : Option s.Carrier}
    {fields : List Field} {make : Values fields → s.Carrier}
    (hs : s.form = .record title onNull fields make) (hnames : (fields.flatMap Field.names).Nodup)
    {origin : Origin} {t : Tree} {a : s.Carrier} :
    t.read origin s = .ok a ↔ (t = .null ∧ onNull = some a) ∨
      ∃ inner values, origin.enter = .ok inner ∧ t.IsRecord fields ∧
        FieldsSupplied (Reads inner) t.given 0 fields values ∧ make values = a := by
  rcases t with _ | _ | n | x | items | members | _
  case null =>
    cases onNull <;> simp [read, readLeaf, hs, IsRecord]
  case array =>
    simp only [read, hs, bind_eq_ok_iff, pure_eq_ok_iff, reduceCtorEq, false_and, false_or,
      Items.readFields_iff [], List.nil_append, List.length_nil]
    constructor
    · rintro ⟨inner, hinner, values, ⟨ts, hts, hshort, hsupplied⟩, rfl⟩
      refine ⟨inner, values, hinner, ⟨ts, hts, hshort⟩, ?_, rfl⟩
      simpa [given, hts] using hsupplied
    · rintro ⟨inner, values, hinner, ⟨ts, hts, hshort⟩, hsupplied, rfl⟩
      refine ⟨inner, hinner, values, ⟨ts, hts, hshort, ?_⟩, rfl⟩
      simpa [given, hts] using hsupplied
  case object =>
    simp only [read, hs, bind_eq_ok_iff, pure_eq_ok_iff, reduceCtorEq, false_and, false_or]
    constructor
    · rintro ⟨inner, hinner, filled, hfilled, values, hvalues, rfl⟩
      obtain ⟨ms, hms, hwhole, hcompleted⟩ :=
        (Members.readSlots_iff hnames).mp ⟨filled, hfilled, hvalues⟩
      refine ⟨inner, values, hinner, ⟨ms, hms, hwhole⟩, ?_, rfl⟩
      simpa [given, hms] using Slots.completed_empty_iff.mp hcompleted
    · rintro ⟨inner, values, hinner, ⟨ms, hms, hwhole⟩, hsupplied, rfl⟩
      have hgiven :
          FieldsSupplied (Reads inner) (fun _ names => under names ms) 0 fields values := by
        simpa [given, hms] using hsupplied
      obtain ⟨filled, hfilled, hvalues⟩ := (Members.readSlots_iff hnames).mpr
        ⟨ms, hms, hwhole, Slots.completed_empty_iff.mpr hgiven⟩
      exact ⟨inner, hinner, filled, hfilled, values, hvalues, rfl⟩
  all_goals simp [read, readLeaf, hs, IsRecord]

/-! ## Texts -/

/-- A text is read as its tree is, if nothing stands behind the tree. -/
theorem Shape.ofText_eq_ok_iff {s : Shape} {text : String} {a : s.Carrier} :
    s.ofText text = .ok a ↔ (Reading.ofText text).tree.read (.text maxOpen) s = .ok a ∧
      (Reading.ofText text).ended = true := by
  unfold ofText
  simp only [bind_eq_ok_iff]
  cases (Reading.ofText text).ended <;> simp [pure_eq_ok_iff]

end SearchQuery
