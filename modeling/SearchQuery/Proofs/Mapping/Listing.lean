import SearchQuery.Mapping
import SearchQuery.Proofs.Json.Nesting
import SearchQuery.Proofs.Text.ByteOrder

/-!
# The fields of a mapping

Which fields a mapping document has, said for any value without regard to an order in which they
are met: `FieldPath.InMapping`. The list of a mapping's field paths holds just these, the lesser
ones first and none twice.

Main statement: `FieldPath.ofMapping_lists_fields`.
-/

namespace SearchQuery

open Json

/-! ## Repetitions in a list -/

section
variable {α : Type} [DecidableEq α]

theorem eraseRepsBy_loop_eq_append (a : α) (xs before : List α) :
    List.eraseRepsBy.loop (· == ·) a xs before =
      before.reverse ++ List.eraseRepsBy.loop (· == ·) a xs [] := by
  induction xs generalizing a before with
  | nil => simp [List.eraseRepsBy.loop]
  | cons b xs ih =>
    unfold List.eraseRepsBy.loop
    split
    · exact ih a before
    · rw [ih b (a :: before), ih b [a]]
      simp

theorem eraseReps_cons_cons (a b : α) (xs : List α) :
    (a :: b :: xs).eraseReps =
      if a = b then (b :: xs).eraseReps else a :: (b :: xs).eraseReps := by
  have hcons (x : α) (ys : List α) :
      (x :: ys).eraseReps = List.eraseRepsBy.loop (· == ·) x ys [] := rfl
  rw [hcons, hcons, List.eraseRepsBy.loop]
  by_cases hab : a = b
  · subst hab
    simp
  · rw [if_neg hab, beq_false_of_ne hab]
    exact eraseRepsBy_loop_eq_append b xs [a]

/-- Nothing is lost where a repetition is dropped. -/
theorem mem_eraseReps_iff {a : α} {xs : List α} : a ∈ xs.eraseReps ↔ a ∈ xs := by
  induction xs with
  | nil => rfl
  | cons b xs ih =>
    cases xs with
    | nil => rfl
    | cons c xs =>
      rw [eraseReps_cons_cons]
      split
      · next hbc => simp [ih, hbc]
      · simp [ih]

theorem eraseReps_eq_self {xs : List α} (h : xs.Nodup) : xs.eraseReps = xs := by
  induction xs with
  | nil => rfl
  | cons a xs ih =>
    obtain ⟨ha, hxs⟩ := List.nodup_cons.mp h
    cases xs with
    | nil => rfl
    | cons b xs =>
      rw [eraseReps_cons_cons, if_neg (List.ne_of_not_mem_cons ha), ih hxs]

/-- Where equal items stand together, dropping repetitions leaves one of each. -/
theorem pairwise_eraseReps {lt : α → α → Prop} (hasymm : ∀ a b, lt a b → ¬lt b a) {xs : List α}
    (h : xs.Pairwise fun a b => lt a b ∨ a = b) : xs.eraseReps.Pairwise lt := by
  induction xs with
  | nil => exact .nil
  | cons a xs ih =>
    cases xs with
    | nil => exact List.pairwise_singleton lt a
    | cons b xs =>
      obtain ⟨ha, hb⟩ := List.pairwise_cons.mp h
      rw [eraseReps_cons_cons]
      split
      · exact ih hb
      · next hne =>
        have hab : lt a b := (ha b List.mem_cons_self).resolve_right hne
        refine List.pairwise_cons.mpr ⟨fun c hc => ?_, ih hb⟩
        rw [mem_eraseReps_iff] at hc
        rcases ha c hc with hac | rfl
        · exact hac
        · -- the first item comes again behind a greater one
          rcases List.mem_cons.mp hc with rfl | hc
          · exact absurd rfl hne
          · rcases (List.pairwise_cons.mp hb).1 a hc with hba | rfl
            · exact absurd hba (hasymm a b hab)
            · exact absurd rfl hne

end

namespace FieldPath

/-! ## The fields of a mapping -/

/-- The path of a name: the name itself at the top, else the path above it, a dot and the name. -/
inductive Dotted : String → String → String → Prop
  | top (name : String) : Dotted "" name name
  | below {above : String} (h : above ≠ "") (name : String) :
      Dotted above name (above ++ "." ++ name)

mutual
/-- The fields below a path of what stands under `properties`: those of the definitions in it. -/
inductive InProperties : String → Value → FieldPath → Prop
  | member {above name path : String} {members : List (String × Value)} {definition : Value}
      {f : FieldPath} (hmember : (name, definition) ∈ members) (hpath : Dotted above name path)
      (hfield : InDefinition path definition f) : InProperties above (.object members) f

/-- The fields of the definition at a path: those of its properties, if it has any, else itself and
its keyword variant, if it has a type. -/
inductive InDefinition : String → Value → FieldPath → Prop
  | nested {path : String} {definition properties : Value} {f : FieldPath}
      (hproperties : definition.get? "properties" = some properties)
      (hfield : InProperties path properties f) : InDefinition path definition f
  | typed {path type : String} {definition : Value} (hnone : definition.get? "properties" = none)
      (htype : definition.get? "type" = some (.string type)) :
      InDefinition path definition ⟨path, type⟩
  | keyword {path type : String} {definition fields variant : Value}
      (hnone : definition.get? "properties" = none)
      (htype : definition.get? "type" = some (.string type))
      (hfields : definition.get? "fields" = some fields)
      (hvariant : fields.get? "keyword" = some variant) :
      InDefinition path definition ⟨path ++ ".keyword", "keyword"⟩
end

/-- The fields of a mapping document: those of its properties, if it has any, else those of
whatever stands in it. -/
inductive InMapping : Value → FieldPath → Prop
  | here {v properties : Value} {f : FieldPath}
      (hproperties : v.get? "properties" = some properties)
      (hfield : InProperties "" properties f) : InMapping v f
  | inside {key : String} {w : Value} {members : List (String × Value)} {f : FieldPath}
      (hnone : (Value.object members).get? "properties" = none) (hmember : (key, w) ∈ members)
      (hfield : InMapping w f) : InMapping (.object members) f

theorem dotted_iff {above name path : String} :
    Dotted above name path ↔ path = join above name := by
  unfold join
  constructor
  · rintro (_ | ⟨h, _⟩)
    · rw [if_pos rfl]
    · rw [if_neg h]
  · rintro rfl
    by_cases h : above = ""
    · subst h
      exact .top name
    · rw [if_neg h]
      exact .below h name

/-! ## What is collected -/

theorem mem_children_of_get? {key : String} {v w : Value} (h : v.get? key = some w) :
    w ∈ v.children := by
  cases v with
  | object members =>
    obtain ⟨before, after, rfl, -⟩ := List.lookup_eq_some_iff.mp h
    simp [Value.children]
  | _ => cases h

theorem ofProperties?_eq (path : String) (members : List (String × Value)) :
    ofProperties? path members =
      ((Value.object members).get? "properties").map (ofProperties path) := by
  induction members with
  | nil => rfl
  | cons m rest ih =>
    obtain ⟨key, v⟩ := m
    rw [Value.get?] at ih ⊢
    by_cases hkey : key = "properties"
    · subst hkey
      rw [ofProperties?, if_pos rfl, List.lookup_cons_self, Option.map_some]
    · have hkey' : ("properties" == key) = false := beq_false_of_ne (Ne.symm hkey)
      rw [ofProperties?, if_neg hkey, ih, List.lookup_cons, hkey']

theorem ofDefinitions_eq_flatMap (above : String) (members : List (String × Value)) :
    ofDefinitions above members =
      members.flatMap fun m => ofDefinition (join above m.1) m.2 :=
  eq_flatMap_of_cons (by rw [ofDefinitions]) (fun _ _ => by rw [ofDefinitions]) members

/-- Only an object has a type. -/
theorem ofDefinition_eq (path : String) (definition : Value) :
    ofDefinition path definition =
      ((definition.get? "properties").map (ofProperties path)).getD (ofLeaf path definition) := by
  cases definition with
  | object members => rw [ofDefinition, ofProperties?_eq]
  | _ => rfl

theorem collectAll_eq_flatMap (members : List (String × Value)) :
    collectAll members = members.flatMap fun m => collect m.2 :=
  eq_flatMap_of_cons (by rw [collectAll]) (fun _ _ => by rw [collectAll]) members

theorem collect_object (members : List (String × Value)) :
    collect (.object members) =
      (((Value.object members).get? "properties").map (ofProperties "")).getD
        (members.flatMap fun m => collect m.2) := by
  rw [collect, ofProperties?_eq, collectAll_eq_flatMap]

/-- A leaf is listed as itself and, if it has a variant, as its variant. -/
theorem mem_ofLeaf_iff {path : String} {definition : Value} {f : FieldPath}
    (hnone : definition.get? "properties" = none) :
    f ∈ ofLeaf path definition ↔ InDefinition path definition f := by
  have htype {type : String} : (definition.get? "type").bind Value.string? = some type ↔
      definition.get? "type" = some (.string type) := by
    rw [Option.bind_eq_some_iff]
    constructor
    · rintro ⟨v, hv, htype⟩
      cases v with
      | string s =>
        obtain rfl := Option.some.inj htype
        exact hv
      | _ => cases htype
    · intro hv
      exact ⟨.string type, hv, rfl⟩
  unfold ofLeaf
  constructor
  · intro hf
    split at hf
    · cases hf
    · next type ht =>
      rcases List.mem_append.mp hf with hvariant | hself
      · split at hvariant
        · next hsome =>
          obtain ⟨variant, hvariant'⟩ := Option.isSome_iff_exists.mp hsome
          obtain ⟨fields, hfields, hkeyword⟩ := Option.bind_eq_some_iff.mp hvariant'
          obtain rfl := List.mem_singleton.mp hvariant
          exact .keyword hnone (htype.mp ht) hfields hkeyword
        · cases hvariant
      · obtain rfl := List.mem_singleton.mp hself
        exact .typed hnone (htype.mp ht)
  · intro hf
    cases hf with
    | nested hproperties => rw [hnone] at hproperties; cases hproperties
    | typed _ ht =>
      rw [htype.mpr ht]
      exact List.mem_append_right _ List.mem_cons_self
    | keyword _ ht hfields hvariant =>
      rw [htype.mpr ht, hfields, Option.bind_some, hvariant]
      exact List.mem_append_left _ List.mem_cons_self

/-- What is collected from properties and from a definition is what is in them. -/
theorem mem_ofProperties_and_mem_ofDefinition_iff (v : Value) :
    (∀ above f, f ∈ ofProperties above v ↔ InProperties above v f) ∧
    ∀ path f, f ∈ ofDefinition path v ↔ InDefinition path v f := by
  -- properties hold definitions and definitions properties, so neither goes without the other
  induction v using Value.induction with
  | step v ih =>
    constructor
    · intro above f
      cases v with
      | object members =>
        rw [ofProperties, ofDefinitions_eq_flatMap, List.mem_flatMap]
        constructor
        · rintro ⟨⟨name, definition⟩, hmember, hf⟩
          have hfield := ((ih definition (List.mem_map_of_mem hmember)).2 _ f).mp hf
          exact .member hmember (dotted_iff.mpr rfl) hfield
        · rintro ⟨hmember, hpath, hfield⟩
          obtain rfl := dotted_iff.mp hpath
          exact ⟨_, hmember, ((ih _ (List.mem_map_of_mem hmember)).2 _ f).mpr hfield⟩
      | _ =>
        constructor
        · intro hf
          cases hf
        · intro hf
          cases hf
    · intro path f
      rw [ofDefinition_eq]
      cases h : v.get? "properties" with
      | none =>
        rw [Option.map_none, Option.getD_none]
        exact mem_ofLeaf_iff h
      | some properties =>
        rw [Option.map_some, Option.getD_some, (ih properties (mem_children_of_get? h)).1]
        -- beside properties a type counts for nothing
        constructor
        · exact .nested h
        · intro hf
          cases hf with
          | nested hproperties hfield =>
            obtain rfl := Option.some.inj (h.symm.trans hproperties)
            exact hfield
          | typed hnone => rw [h] at hnone; cases hnone
          | keyword hnone => rw [h] at hnone; cases hnone

/-- What is collected from a document is what is in it. -/
theorem mem_collect_iff {v : Value} {f : FieldPath} : f ∈ collect v ↔ InMapping v f := by
  induction v using Value.induction with
  | step v ih =>
    cases v with
    | object members =>
      rw [collect_object]
      cases h : (Value.object members).get? "properties" with
      | some properties =>
        rw [Option.map_some, Option.getD_some,
          (mem_ofProperties_and_mem_ofDefinition_iff properties).1]
        constructor
        · exact .here h
        · intro hf
          cases hf with
          | here hproperties hfield =>
            obtain rfl := Option.some.inj (h.symm.trans hproperties)
            exact hfield
          | inside hnone => rw [h] at hnone; cases hnone
      | none =>
        rw [Option.map_none, Option.getD_none, List.mem_flatMap]
        constructor
        · rintro ⟨⟨key, w⟩, hmember, hf⟩
          exact .inside h hmember ((ih w (List.mem_map_of_mem hmember)).mp hf)
        · intro hf
          cases hf with
          | here hproperties => rw [h] at hproperties; cases hproperties
          | inside _ hmember hfield =>
            exact ⟨_, hmember, (ih _ (List.mem_map_of_mem hmember)).mpr hfield⟩
    | _ =>
      constructor
      · intro hf
        cases hf
      · intro hf
        cases hf with
        | here hproperties => cases hproperties

/-- A field named `properties`, one with a variant, one whose definition is no object, and a type
beside properties. -/
example : collect (.object [("people", .object [("properties", .object
    [("name", .object [("type", .string "text"), ("fields", .object [("keyword", .null)])]),
      ("home", .object [("type", .string "nested"), ("properties", .object
        [("properties", .object [("type", .string "date")]), ("city", .string "text")])])])])]) =
    [⟨"name.keyword", "keyword"⟩, ⟨"name", "text"⟩, ⟨"home.properties", "date"⟩] := by
  decide

/-! ## Their order -/

/-- The lesser path comes first and, of two fields with one path, the lesser type; texts are
compared by their bytes. -/
def Before (a b : FieldPath) : Prop :=
  Text.bytes a.path < Text.bytes b.path ∨
    a.path = b.path ∧ Text.bytes a.type < Text.bytes b.type

theorem before_iff {a b : FieldPath} :
    Before a b ↔ a.path < b.path ∨ a.path = b.path ∧ a.type < b.type := by
  rw [Before, Text.bytes_lt_bytes_iff, Text.bytes_lt_bytes_iff]

theorem Before.asymm {a b : FieldPath} (h : Before a b) : ¬Before b a := by
  rw [before_iff] at h ⊢
  rintro (hpath | ⟨hpath, htype⟩)
  · rcases h with h | ⟨h, -⟩
    · exact lt_asymm h hpath
    · exact absurd h.symm (ne_of_lt hpath)
  · rcases h with h | ⟨-, h⟩
    · exact absurd hpath.symm (ne_of_lt h)
    · exact lt_asymm h htype

theorem Before.trans {a b c : FieldPath} (hab : Before a b) (hbc : Before b c) : Before a c := by
  rw [before_iff] at *
  rcases hab with hab | ⟨hab, htype⟩
  · left
    rcases hbc with hbc | ⟨hbc, -⟩
    · exact lt_trans hab hbc
    · exact hbc ▸ hab
  · rcases hbc with hbc | ⟨hbc, htype'⟩
    · exact Or.inl (hab ▸ hbc)
    · exact Or.inr ⟨hab.trans hbc, lt_trans htype htype'⟩

/-- Of two different fields one comes before the other. -/
theorem before_trichotomy (a b : FieldPath) : Before a b ∨ a = b ∨ Before b a := by
  obtain ⟨path, type⟩ := a
  obtain ⟨path', type'⟩ := b
  rw [before_iff, before_iff]
  rcases lt_trichotomy path path' with hpath | rfl | hpath
  · exact Or.inl (Or.inl hpath)
  · rcases lt_trichotomy type type' with htype | rfl | htype
    · exact Or.inl (Or.inr ⟨rfl, htype⟩)
    · exact Or.inr (Or.inl rfl)
    · exact Or.inr (Or.inr (Or.inr ⟨rfl, htype⟩))
  · exact Or.inr (Or.inr (Or.inl hpath))

theorem le_iff {a b : FieldPath} : le a b = true ↔ Before a b ∨ a = b := by
  obtain ⟨path, type⟩ := a
  obtain ⟨path', type'⟩ := b
  rw [before_iff]
  simp only [le, Bool.or_eq_true, Bool.and_eq_true, decide_eq_true_eq, FieldPath.mk.injEq,
    le_iff_lt_or_eq]
  tauto

/-- The sorted fields, of which equal ones stand together. -/
theorem pairwise_mergeSort_collect (m : Value) :
    ((collect m).mergeSort le).Pairwise fun a b => Before a b ∨ a = b := by
  have htrans (a b c : FieldPath) (hab : le a b = true) (hbc : le b c = true) :
      le a c = true := by
    rw [le_iff] at *
    rcases hab with hab | rfl
    · rcases hbc with hbc | rfl
      · exact Or.inl (hab.trans hbc)
      · exact Or.inl hab
    · exact hbc
  have htotal (a b : FieldPath) : (le a b || le b a) = true := by
    rw [Bool.or_eq_true, le_iff, le_iff]
    rcases before_trichotomy a b with hab | rfl | hba
    · exact Or.inl (Or.inl hab)
    · exact Or.inl (Or.inr rfl)
    · exact Or.inr (Or.inl hba)
  exact (List.pairwise_mergeSort htrans htotal _).imp le_iff.mp

theorem pairwise_ofMapping (m : Value) : (ofMapping m).Pairwise Before :=
  pairwise_eraseReps (fun _ _ => Before.asymm) (pairwise_mergeSort_collect m)

theorem mem_ofMapping_iff {m : Value} {f : FieldPath} : f ∈ ofMapping m ↔ InMapping m f := by
  rw [ofMapping, mem_eraseReps_iff, List.mem_mergeSort, mem_collect_iff]

/-- The field paths of a mapping are its fields: the list holds every field of the mapping and
nothing else, in strict order by path and then by type, and so none of them twice. -/
theorem ofMapping_lists_fields (m : Value) :
    (ofMapping m).Pairwise Before ∧ ∀ f, f ∈ ofMapping m ↔ InMapping m f :=
  ⟨pairwise_ofMapping m, fun _ => mem_ofMapping_iff⟩

end FieldPath

end SearchQuery
