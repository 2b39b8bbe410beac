import Mathlib.Data.Set.Finite.List
import SearchQuery.Proofs.Mapping.Merging
import SearchQuery.Proofs.Mapping.Paths

/-!
# Leaves of a mapping

Below the properties of an index stand definitions, reached by the names of fields. Those that have
a type and no properties of their own are its leaves. As long as no name is empty or has a dot in
it, the list of field paths keeps them apart: each leaf has one entry, and one more if it has a
keyword variant, and the path of an entry shows the names that lead to it.

Main statement: `FieldPath.ofMapping_keeps_leaves_apart`.
-/

namespace SearchQuery.FieldPath

open Json Value

/-! ## Definitions under names -/

/-- The definition that names lead to, each one among the properties of the definition before. -/
def definitionAt? (mapping : Value) (names : List String) : Option Value :=
  descend? mapping (names.flatMap fun name => ["properties", name])

theorem definitionAt?_append (v : Value) (names more : List String) :
    definitionAt? v (names ++ more) = (definitionAt? v names).bind (definitionAt? · more) := by
  rw [definitionAt?, List.flatMap_append, descend?_append]
  rfl

theorem definitionAt?_cons (v : Value) (name : String) (names : List String) :
    definitionAt? v (name :: names) = (definitionAt? v [name]).bind (definitionAt? · names) :=
  definitionAt?_append v [name] names

theorem definitionAt?_singleton_eq_some_iff {v definition : Value} {name : String} :
    definitionAt? v [name] = some definition ↔
      ∃ properties, v.get? "properties" = some properties ∧
        properties.get? name = some definition :=
  descend?_pair_eq_some_iff

/-- Without properties no name leads on. -/
theorem definitionAt?_singleton_eq_none {v : Value} (h : v.get? "properties" = none)
    (name : String) : definitionAt? v [name] = none := by
  show (v.get? "properties").bind _ = none
  rw [h, Option.bind_none]

/-- Induction over a definition and those among its properties. -/
@[elab_as_elim]
theorem definition_induction {motive : Value → Prop}
    (step : ∀ v, (∀ name w, definitionAt? v [name] = some w → motive w) → motive v) (v : Value) :
    motive v :=
  step v fun _ w _ => definition_induction step w
termination_by v.nesting
decreasing_by
  obtain ⟨properties, hproperties, hname⟩ := definitionAt?_singleton_eq_some_iff.mp ‹_›
  exact Nat.lt_trans (nesting_lt_of_mem_children (mem_children_of_get? hname))
    (nesting_lt_of_mem_children (mem_children_of_get? hproperties))

theorem keysDistinct_of_descend? {v w : Value} {keys : List String} (hkeys : v.KeysDistinct)
    (h : descend? v keys = some w) : w.KeysDistinct := by
  induction keys generalizing v with
  | nil =>
    obtain rfl := Option.some.inj h
    exact hkeys
  | cons key keys ih =>
    obtain ⟨u, hu, hw⟩ := Option.bind_eq_some_iff.mp h
    exact ih (hkeys.of_mem_children (mem_children_of_get? hu)) hw

/-! ## Leaves -/

/-- The definition has this type and no properties, and a keyword variant or none. -/
structure IsLeaf (definition : Value) (type : String) (hasVariant : Bool) : Prop where
  noProperties : definition.get? "properties" = none
  hasType : definition.get? "type" = some (.string type)
  variant : (descend? definition ["fields", "keyword"]).isSome = hasVariant

/-- A typed field: the names that lead to it, its type, and whether it has a keyword variant. -/
structure Leaf where
  names : List String
  type : String
  hasVariant : Bool
  deriving DecidableEq, Repr

namespace Leaf

/-- A leaf's entries: its type under its names and, if it has a variant, that under one name more. -/
def entries (l : Leaf) : List (List String × String) :=
  (l.names, l.type) ::
    if l.hasVariant then [(l.names ++ ["keyword"], "keyword")] else []

/-- The leaf's names lead to its definition. -/
def StandsIn (l : Leaf) (mapping : Value) : Prop :=
  ∃ definition, definitionAt? mapping l.names = some definition ∧
    IsLeaf definition l.type l.hasVariant

/-- A leaf's fields, with its names joined below a path. -/
def fieldsBelow (above : String) (l : Leaf) : List FieldPath :=
  ⟨l.names.foldl join above, l.type⟩ ::
    if l.hasVariant then [⟨l.names.foldl join above ++ ".keyword", "keyword"⟩] else []

/-- The same names lead to the same leaf. -/
theorem StandsIn.eq_of_names_eq {m : Value} {l l' : Leaf} (h : l.StandsIn m) (h' : l'.StandsIn m)
    (hnames : l.names = l'.names) : l = l' := by
  obtain ⟨names, type, hasVariant⟩ := l
  obtain ⟨names', type', hasVariant'⟩ := l'
  obtain rfl : names = names' := hnames
  obtain ⟨definition, hat, hleaf⟩ := h
  obtain ⟨definition', hat', hleaf'⟩ := h'
  obtain rfl := Option.some.inj (hat.symm.trans hat')
  obtain rfl := Value.string.inj (Option.some.inj (hleaf.hasType.symm.trans hleaf'.hasType))
  obtain rfl := hleaf.variant.symm.trans hleaf'.variant
  rfl

/-- No name leads on from a leaf. -/
theorem StandsIn.definitionAt?_eq_none {m : Value} {l : Leaf} (h : l.StandsIn m) (name : String) :
    definitionAt? m (l.names ++ [name]) = none := by
  obtain ⟨definition, hat, hleaf⟩ := h
  rw [definitionAt?_append, hat, Option.bind_some]
  exact definitionAt?_singleton_eq_none hleaf.noProperties name

theorem mem_entries_iff {l : Leaf} {e : List String × String} :
    e ∈ l.entries ↔ e = (l.names, l.type) ∨
      l.hasVariant = true ∧ e = (l.names ++ ["keyword"], "keyword") := by
  unfold entries
  cases l.hasVariant <;> simp

/-- A leaf does not have the names of a variant. -/
theorem StandsIn.names_ne {m : Value} {l l' : Leaf} (h : l.StandsIn m) (h' : l'.StandsIn m) :
    l.names ≠ l'.names ++ ["keyword"] := by
  intro hnames
  obtain ⟨definition, hat, -⟩ := h
  rw [hnames, h'.definitionAt?_eq_none] at hat
  cases hat

/-- Entries under the same names are one entry, of one leaf. -/
theorem StandsIn.eq_of_mem_entries {m : Value} {l l' : Leaf} (h : l.StandsIn m)
    (h' : l'.StandsIn m) {e e' : List String × String} (he : e ∈ l.entries) (he' : e' ∈ l'.entries)
    (hnames : e.1 = e'.1) : l = l' ∧ e = e' := by
  rcases mem_entries_iff.mp he with rfl | ⟨-, rfl⟩
  · rcases mem_entries_iff.mp he' with rfl | ⟨-, rfl⟩
    · obtain rfl := h.eq_of_names_eq h' hnames
      exact ⟨rfl, rfl⟩
    · -- a name would lead on from the leaf that has the variant
      exact absurd hnames (h.names_ne h')
  · rcases mem_entries_iff.mp he' with rfl | ⟨-, rfl⟩
    · exact absurd hnames.symm (h'.names_ne h)
    · obtain rfl := h.eq_of_names_eq h' (List.append_cancel_right hnames)
      exact ⟨rfl, rfl⟩

theorem length_flatMap_entries (leaves : List Leaf) :
    (leaves.flatMap entries).length = leaves.length + leaves.countP (·.hasVariant) := by
  induction leaves with
  | nil => rfl
  | cons l leaves ih =>
    rw [List.flatMap_cons, List.length_append, ih, List.length_cons, List.countP_cons, entries]
    cases l.hasVariant <;> simp <;> omega

/-- The entries of different leaves are different. -/
theorem nodup_flatMap_entries {m : Value} {leaves : List Leaf} (hleaves : leaves.Nodup)
    (h : ∀ l ∈ leaves, l.StandsIn m) : (leaves.flatMap entries).Nodup := by
  rw [List.nodup_flatMap]
  constructor
  · intro l hl
    have hne := (h l hl).names_ne (h l hl)
    unfold entries
    cases l.hasVariant <;> simp [hne]
  · apply hleaves.imp_of_mem
    intro l l' hl hl' hne e he he'
    exact hne ((h l hl).eq_of_mem_entries (h l' hl') he he' rfl).1

end Leaf

/-! ## What is collected below a definition -/

/-- A definition without properties is collected as the leaf it is. -/
theorem mem_ofLeaf_iff_isLeaf {path : String} {definition : Value} {f : FieldPath}
    (hnone : definition.get? "properties" = none) :
    f ∈ ofLeaf path definition ↔ ∃ type hasVariant, IsLeaf definition type hasVariant ∧
      f ∈ Leaf.fieldsBelow path ⟨[], type, hasVariant⟩ := by
  rw [mem_ofLeaf_iff hnone]
  constructor
  · intro hf
    cases hf with
    | nested hproperties => rw [hnone] at hproperties; cases hproperties
    | typed _ htype => exact ⟨_, _, ⟨hnone, htype, rfl⟩, List.mem_cons_self⟩
    | @keyword _ type _ _ _ _ htype hfields hvariant =>
      have hkeyword := descend?_pair_eq_some_iff.mpr ⟨_, hfields, hvariant⟩
      refine ⟨type, true, ⟨hnone, htype, by rw [hkeyword]; rfl⟩, ?_⟩
      exact List.mem_cons_of_mem _ List.mem_cons_self
  · rintro ⟨type, hasVariant, ⟨-, htype, hvariant⟩, hf⟩
    rcases List.mem_cons.mp hf with rfl | hf
    · exact .typed hnone htype
    · cases hasVariant with
      | false => cases hf
      | true =>
        obtain rfl := List.mem_singleton.mp hf
        obtain ⟨variant, hkeyword⟩ := Option.isSome_iff_exists.mp hvariant
        obtain ⟨fields, hfields, hvariant⟩ := descend?_pair_eq_some_iff.mp hkeyword
        exact .keyword hnone htype hfields hvariant

/-- A definition is collected as itself or as those among its properties. -/
theorem mem_ofDefinition_step {path : String} {definition : Value} {f : FieldPath}
    (hkeys : definition.KeysDistinct) :
    f ∈ ofDefinition path definition ↔
      definition.get? "properties" = none ∧ f ∈ ofLeaf path definition ∨
      ∃ name w, definitionAt? definition [name] = some w ∧ f ∈ ofDefinition (join path name) w := by
  simp only [definitionAt?_singleton_eq_some_iff]
  rw [ofDefinition_eq]
  cases hproperties : definition.get? "properties" with
  | none => simp
  | some properties =>
    have hkeys' := hkeys.of_mem_children (mem_children_of_get? hproperties)
    cases properties with
    | object members =>
      -- what is collected from every member is to be found under the key of that member
      have hnodup := (keysDistinct_object_iff.mp hkeys').1
      simp [ofProperties, ofDefinitions_eq_flatMap, Value.get?, lookup_eq_some_iff_mem hnodup]
    | _ => simp [ofProperties, Value.get?]

/-- Below a definition its leaves are collected. -/
theorem mem_ofDefinition_iff_leaf {path : String} {definition : Value} {f : FieldPath}
    (hkeys : definition.KeysDistinct) :
    f ∈ ofDefinition path definition ↔
      ∃ l : Leaf, l.StandsIn definition ∧ f ∈ l.fieldsBelow path := by
  -- a leaf of the definition is itself, or its first name leads to one whose leaf it is
  induction definition using definition_induction generalizing path with
  | step v ih =>
    rw [mem_ofDefinition_step hkeys]
    constructor
    · rintro (⟨hnone, hf⟩ | ⟨name, w, hw, hf⟩)
      · obtain ⟨type, hasVariant, hleaf, hf⟩ := (mem_ofLeaf_iff_isLeaf hnone).mp hf
        exact ⟨⟨[], type, hasVariant⟩, ⟨v, rfl, hleaf⟩, hf⟩
      · have hkeys' := keysDistinct_of_descend? hkeys hw
        obtain ⟨⟨names, type, hasVariant⟩, ⟨definition, hat, hleaf⟩, hf⟩ :=
          (ih name w hw hkeys').mp hf
        refine ⟨⟨name :: names, type, hasVariant⟩, ⟨definition, ?_, hleaf⟩, hf⟩
        rw [definitionAt?_cons, hw]
        exact hat
    · rintro ⟨⟨names, type, hasVariant⟩, ⟨definition, hat, hleaf⟩, hf⟩
      cases names with
      | nil =>
        obtain rfl := Option.some.inj hat
        have hnone := hleaf.noProperties
        exact Or.inl ⟨hnone, (mem_ofLeaf_iff_isLeaf hnone).mpr ⟨type, hasVariant, hleaf, hf⟩⟩
      | cons name names =>
        rw [definitionAt?_cons, Option.bind_eq_some_iff] at hat
        obtain ⟨w, hw, hat⟩ := hat
        have hkeys' := keysDistinct_of_descend? hkeys hw
        refine Or.inr ⟨name, w, hw, (ih name w hw hkeys').mpr ?_⟩
        exact ⟨⟨names, type, hasVariant⟩, ⟨definition, hat, hleaf⟩, hf⟩

/-! ## Paths that show their names -/

/-- No name under which a definition stands is empty or has a dot in it. -/
def PlainNames (mapping : Value) : Prop :=
  ∀ names definition, definitionAt? mapping names = some definition →
    ∀ name ∈ names, name ≠ "" ∧ '.' ∉ name.toList

/-- Joined names are the parts of their path. -/
theorem parts_foldl_join {names : List String} (hne : names ≠ [])
    (hnames : ∀ name ∈ names, name ≠ "" ∧ '.' ∉ name.toList) :
    parts (names.foldl join "") = names := by
  -- a path grows at its end, so it is the last name that is taken off
  induction names using List.reverseRecOn with
  | nil => exact absurd rfl hne
  | append_singleton above name ih =>
    have hname : parts name = [name] := parts_eq_singleton (hnames name (by simp)).2
    rw [List.foldl_append, List.foldl_cons, List.foldl_nil, join]
    by_cases habove : above = []
    · subst habove
      exact hname
    · have hparts : parts (above.foldl join "") = above :=
        ih habove fun other hother => hnames other (by simp [hother])
      -- an empty path would have an empty name for its part
      have hpath : above.foldl join "" ≠ "" := by
        intro hempty
        rw [hempty] at hparts
        refine (hnames "" ?_).1 rfl
        rw [← hparts]
        simp [parts]
      rw [if_neg hpath, parts_append_dot, hparts, hname]

theorem Leaf.StandsIn.names_ne_nil {m properties : Value} {l : Leaf} (h : l.StandsIn m)
    (hproperties : m.get? "properties" = some properties) : l.names ≠ [] := by
  intro hnil
  obtain ⟨definition, hat, hleaf⟩ := h
  rw [hnil] at hat
  obtain rfl := Option.some.inj hat
  rw [hleaf.noProperties] at hproperties
  cases hproperties

/-- The fields of a leaf are its entries, with their names as parts. -/
theorem Leaf.StandsIn.map_parts_fieldsBelow {m : Value} {l : Leaf} (h : l.StandsIn m)
    (hplain : PlainNames m) (hne : l.names ≠ []) :
    (l.fieldsBelow "").map (fun f => (parts f.path, f.type)) = l.entries := by
  obtain ⟨definition, hat, -⟩ := h
  have hparts := parts_foldl_join hne (hplain _ _ hat)
  have hvariant (path : String) : parts (path ++ ".keyword") = parts path ++ ["keyword"] := by
    rw [show path ++ ".keyword" = path ++ "." ++ "keyword" by
      rw [String.append_assoc]; rfl, parts_append_dot]
    rfl
  unfold fieldsBelow entries
  cases l.hasVariant <;> simp [hparts, hvariant]

/-! ## Nothing is collected twice -/

theorem nodup_ofLeaf (path : String) (definition : Value) : (ofLeaf path definition).Nodup := by
  have hne : path ++ ".keyword" ≠ path := by
    intro h
    have hlength := congrArg String.length h
    rw [String.length_append] at hlength
    have hkeyword : ".keyword".length = 8 := rfl
    omega
  unfold ofLeaf
  split
  · exact List.nodup_nil
  · dsimp only
    split <;> simp [hne]

section
variable {m properties : Value}

/-- Fields with one path are one field, of one leaf. -/
theorem Leaf.StandsIn.eq_of_mem_fieldsBelow (hproperties : m.get? "properties" = some properties)
    (hplain : PlainNames m) {l l' : Leaf} (h : l.StandsIn m) (h' : l'.StandsIn m)
    {f f' : FieldPath} (hf : f ∈ l.fieldsBelow "") (hf' : f' ∈ l'.fieldsBelow "")
    (hpath : f.path = f'.path) : l = l' ∧ f = f' := by
  have hentry {l : Leaf} (h : l.StandsIn m) {f : FieldPath} (hf : f ∈ l.fieldsBelow "") :
      (parts f.path, f.type) ∈ l.entries := by
    rw [← h.map_parts_fieldsBelow hplain (h.names_ne_nil hproperties)]
    exact List.mem_map_of_mem hf
  obtain ⟨hleaf, heq⟩ :=
    h.eq_of_mem_entries h' (hentry h hf) (hentry h' hf') (congrArg parts hpath)
  obtain ⟨path, type⟩ := f
  obtain ⟨path', type'⟩ := f'
  obtain rfl : path = path' := hpath
  obtain rfl : type = type' := congrArg Prod.snd heq
  exact ⟨hleaf, rfl⟩

/-- What is collected below names belongs to leaves whose names begin with these. -/
theorem exists_leaf_of_mem_ofDefinition (hkeys : m.KeysDistinct) {names : List String}
    {definition : Value} (hat : definitionAt? m names = some definition) {f : FieldPath}
    (hf : f ∈ ofDefinition (names.foldl join "") definition) :
    ∃ l : Leaf, l.StandsIn m ∧ names <+: l.names ∧ f ∈ l.fieldsBelow "" := by
  have hkeys' := keysDistinct_of_descend? hkeys hat
  obtain ⟨⟨more, type, hasVariant⟩, ⟨leaf, hat', hleaf⟩, hf⟩ :=
    (mem_ofDefinition_iff_leaf hkeys').mp hf
  refine ⟨⟨names ++ more, type, hasVariant⟩, ⟨leaf, ?_, hleaf⟩, List.prefix_append _ _, ?_⟩
  · rw [definitionAt?_append, hat]
    exact hat'
  · rw [Leaf.fieldsBelow, List.foldl_append]
    exact hf

/-- What is collected below two names side by side has nothing in common: a field below both would
be that of a leaf whose names go through both. -/
theorem disjoint_ofDefinition (hkeys : m.KeysDistinct)
    (hproperties : m.get? "properties" = some properties) (hplain : PlainNames m)
    {above : List String} {name name' : String} {definition definition' : Value}
    (hat : definitionAt? m (above ++ [name]) = some definition)
    (hat' : definitionAt? m (above ++ [name']) = some definition') (hne : name ≠ name') :
    (ofDefinition ((above ++ [name]).foldl join "") definition).Disjoint
      (ofDefinition ((above ++ [name']).foldl join "") definition') := by
  intro f hf hf'
  obtain ⟨l, h, hnames, hf⟩ := exists_leaf_of_mem_ofDefinition hkeys hat hf
  obtain ⟨l', h', hnames', hf'⟩ := exists_leaf_of_mem_ofDefinition hkeys hat' hf'
  obtain ⟨rfl, -⟩ := h.eq_of_mem_fieldsBelow hproperties hplain h' hf hf' rfl
  have hbegins := List.prefix_of_prefix_length_le hnames hnames' (by simp)
  have hsame : [name] = [name'] := List.append_cancel_left (hbegins.eq_of_length (by simp))
  exact hne (List.singleton_injective hsame)

/-- Whatever names lead to it, from a definition no field is collected twice. -/
theorem nodup_ofDefinition (hkeys : m.KeysDistinct)
    (hproperties : m.get? "properties" = some properties) (hplain : PlainNames m)
    (definition : Value) :
    ∀ names, definitionAt? m names = some definition →
      (ofDefinition (names.foldl join "") definition).Nodup := by
  induction definition using definition_induction with
  | step v ih =>
    intro names hat
    rw [ofDefinition_eq]
    cases hv : v.get? "properties" with
    | none => exact nodup_ofLeaf _ v
    | some w =>
      have hkeys' := (keysDistinct_of_descend? hkeys hat).of_mem_children (mem_children_of_get? hv)
      cases w with
      | object members =>
        have hnodup := (keysDistinct_object_iff.mp hkeys').1
        have hmember (d : String × Value) (hd : d ∈ members) : definitionAt? v [d.1] = some d.2 :=
          definitionAt?_singleton_eq_some_iff.mpr
            ⟨_, hv, (lookup_eq_some_iff_mem hnodup).mpr hd⟩
        have hbelow (d : String × Value) (hd : d ∈ members) :
            definitionAt? m (names ++ [d.1]) = some d.2 := by
          rw [definitionAt?_append, hat]
          exact hmember d hd
        have hpath (name : String) :
            join (names.foldl join "") name = (names ++ [name]).foldl join "" := by
          rw [List.foldl_append]
          rfl
        show (ofProperties _ _).Nodup
        rw [ofProperties, ofDefinitions_eq_flatMap, List.nodup_flatMap]
        simp only [hpath]
        constructor
        · intro d hd
          exact ih d.1 d.2 (hmember d hd) _ (hbelow d hd)
        · apply (List.pairwise_map.mp hnodup).imp_of_mem
          intro d d' hd hd' hne
          exact disjoint_ofDefinition hkeys hproperties hplain (hbelow d hd) (hbelow d' hd') hne
      | _ => exact List.nodup_nil

/-- Under properties a document is collected as a definition without a name. -/
theorem collect_eq_ofDefinition (hproperties : m.get? "properties" = some properties) :
    collect m = ofDefinition "" m := by
  cases m with
  | object members => rw [collect_object, ofDefinition_eq, hproperties]; rfl
  | _ => cases hproperties

/-- The fields of a mapping are those of its leaves. -/
theorem mem_ofMapping_iff_leaf (hkeys : m.KeysDistinct)
    (hproperties : m.get? "properties" = some properties) {f : FieldPath} :
    f ∈ ofMapping m ↔ ∃ l : Leaf, l.StandsIn m ∧ f ∈ l.fieldsBelow "" := by
  rw [mem_ofMapping_iff, ← mem_collect_iff, collect_eq_ofDefinition hproperties,
    mem_ofDefinition_iff_leaf hkeys]

/-- Only as many leaves stand in a mapping as it has fields. -/
theorem finite_leaves (hkeys : m.KeysDistinct)
    (hproperties : m.get? "properties" = some properties) (hplain : PlainNames m) :
    {l : Leaf | l.StandsIn m}.Finite := by
  refine Set.Finite.of_injOn (f := fun l => ⟨l.names.foldl join "", l.type⟩) ?_ ?_
    (List.finite_toSet (ofMapping m))
  · intro l h
    exact (mem_ofMapping_iff_leaf hkeys hproperties).mpr ⟨l, h, List.mem_cons_self⟩
  · intro l h l' h' heq
    exact (h.eq_of_mem_fieldsBelow hproperties hplain h' List.mem_cons_self List.mem_cons_self
      (congrArg FieldPath.path heq)).1

/-- No two leaves of an index are conflated. Where an object has properties, and no name below them
is empty or has a dot in it, take its leaves, each once: then the field paths are one entry for every
leaf and one more for every leaf with a keyword variant, so many as these are together, and when they
were put in order none had to be dropped. No path stands twice, and its parts between the dots are
the names that lead to its leaf, with one more for a variant. -/
theorem ofMapping_keeps_leaves_apart (hkeys : m.KeysDistinct)
    (hproperties : m.get? "properties" = some properties) (hplain : PlainNames m) :
    ∃ leaves : List Leaf, (leaves.map Leaf.names).Nodup ∧ (∀ l, l ∈ leaves ↔ l.StandsIn m) ∧
      ((ofMapping m).map fun f => (parts f.path, f.type)).Perm (leaves.flatMap Leaf.entries) ∧
      (ofMapping m).length = leaves.length + leaves.countP (·.hasVariant) ∧
      ofMapping m = (collect m).mergeSort le ∧
      ((ofMapping m).map FieldPath.path).Nodup := by
  have hfinite := finite_leaves hkeys hproperties hplain
  have hmem (l : Leaf) : l ∈ hfinite.toFinset.toList ↔ l.StandsIn m := by simp
  have hnodup : hfinite.toFinset.toList.Nodup := Finset.nodup_toList _
  generalize hfinite.toFinset.toList = leaves at hmem hnodup
  have hentries : (leaves.flatMap (Leaf.fieldsBelow "")).map (fun f => (parts f.path, f.type)) =
      leaves.flatMap Leaf.entries := by
    rw [List.map_flatMap]
    apply List.flatMap_congr
    intro l hl
    have h := (hmem l).mp hl
    exact h.map_parts_fieldsBelow hplain (h.names_ne_nil hproperties)
  have hdistinct := Leaf.nodup_flatMap_entries hnodup fun l hl => (hmem l).mp hl
  have hordered : (ofMapping m).Nodup := (pairwise_ofMapping m).nodup
  -- the fields of the leaves are as different as their entries
  have hperm : (ofMapping m).Perm (leaves.flatMap (Leaf.fieldsBelow "")) := by
    rw [List.perm_ext_iff_of_nodup hordered (List.Nodup.of_map _ (hentries ▸ hdistinct))]
    intro f
    simp only [mem_ofMapping_iff_leaf hkeys hproperties, List.mem_flatMap, hmem]
  have hcollected : (collect m).Nodup := by
    rw [collect_eq_ofDefinition hproperties]
    exact nodup_ofDefinition hkeys hproperties hplain m [] rfl
  refine ⟨leaves, ?_, hmem, hentries ▸ hperm.map _, ?_, ?_, ?_⟩
  · apply hnodup.map_on
    intro l hl l' hl' hnames
    exact ((hmem l).mp hl).eq_of_names_eq ((hmem l').mp hl') hnames
  · rw [hperm.length_eq, ← Leaf.length_flatMap_entries, ← hentries, List.length_map]
  · exact eraseReps_eq_self ((List.mergeSort_perm _ _).nodup_iff.mpr hcollected)
  · apply hordered.map_on
    intro f hf f' hf' hpath
    obtain ⟨l, h, hf⟩ := (mem_ofMapping_iff_leaf hkeys hproperties).mp hf
    obtain ⟨l', h', hf'⟩ := (mem_ofMapping_iff_leaf hkeys hproperties).mp hf'
    exact (h.eq_of_mem_fieldsBelow hproperties hplain h' hf hf' hpath).2

end

theorem plainNames_of_noProperties {v : Value} (h : v.get? "properties" = none) :
    PlainNames v := by
  intro names definition hat
  cases names with
  | nil => simp
  | cons name names =>
    rw [definitionAt?_cons, definitionAt?_singleton_eq_none h] at hat
    cases hat

theorem plainNames_of_properties {v : Value} {members : List (String × Value)}
    (h : v.get? "properties" = some (.object members))
    (hmembers : ∀ d ∈ members, (d.1 ≠ "" ∧ '.' ∉ d.1.toList) ∧ PlainNames d.2) :
    PlainNames v := by
  intro names definition hat
  cases names with
  | nil => simp
  | cons name names =>
    rw [definitionAt?_cons, Option.bind_eq_some_iff] at hat
    obtain ⟨w, hw, hat⟩ := hat
    obtain ⟨properties, hproperties, hname⟩ := definitionAt?_singleton_eq_some_iff.mp hw
    obtain rfl := Option.some.inj (h.symm.trans hproperties)
    obtain ⟨before, after, rfl, -⟩ := List.lookup_eq_some_iff.mp hname
    obtain ⟨hplain, hbelow⟩ := hmembers (name, w) (by simp)
    exact List.forall_mem_cons.mpr ⟨hplain, hbelow names definition hat⟩

/-- People with a name, which has a variant, and a home in a city. -/
def people : Value :=
  .object [("properties", .object
    [("name", .object [("type", .string "text"), ("fields", .object
        [("keyword", .object [("type", .string "keyword")])])]),
      ("home", .object [("type", .string "nested"), ("properties", .object
        [("city", .object [("type", .string "keyword")])])])])]

theorem ofMapping_keeps_leaves_apart_people :
    people.KeysDistinct ∧ (people.get? "properties").isSome ∧ PlainNames people ∧
      ∃ leaves : List Leaf, (leaves.map Leaf.names).Nodup ∧
        (∀ l, l ∈ leaves ↔ l.StandsIn people) ∧
        ((ofMapping people).map fun f => (parts f.path, f.type)).Perm
          (leaves.flatMap Leaf.entries) ∧
        (ofMapping people).length = leaves.length + leaves.countP (·.hasVariant) ∧
        ofMapping people = (collect people).mergeSort le ∧
        ((ofMapping people).map FieldPath.path).Nodup := by
  have hkeys : people.KeysDistinct := by
    simp [people, keysDistinct_object_iff, keysDistinct_string]
  have hplain : PlainNames people := by
    refine plainNames_of_properties rfl ?_
    simp only [List.forall_mem_cons]
    refine ⟨⟨by decide, plainNames_of_noProperties rfl⟩, ⟨by decide, ?_⟩, by simp⟩
    refine plainNames_of_properties rfl ?_
    simp only [List.forall_mem_cons]
    exact ⟨⟨by decide, plainNames_of_noProperties rfl⟩, by simp⟩
  exact ⟨hkeys, rfl, hplain, ofMapping_keeps_leaves_apart hkeys rfl hplain⟩

end SearchQuery.FieldPath
