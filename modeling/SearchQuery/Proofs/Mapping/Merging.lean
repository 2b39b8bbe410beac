import Mathlib.Data.List.Sort
import SearchQuery.Proofs.Mapping.Listing

/-!
# Presentations of a mapping

The field paths of a mapping do not depend on the order in which its keys are written. Around the
first properties a document is no more than the documents in it taken together: its field paths are
theirs merged, whatever the names above them, and however many such levels there are.

Main statement: `FieldPath.ofMapping_ignores_presentation`.
-/

namespace SearchQuery

open Json

/-! ## Values up to the order of keys -/

namespace Json.Value

open FieldPath (mem_children_of_get?)

/-- Two members stand under one key, with values that are so related. -/
inductive UnderOneKey (R : Value → Value → Prop) : String × Value → String × Value → Prop
  | intro {key : String} {v w : Value} (h : R v w) : UnderOneKey R (key, v) (key, w)

/-- The second value is the first with the members of objects in some order, at any depth. -/
inductive Reordered : Value → Value → Prop
  | refl (v : Value) : Reordered v v
  | array {items items' : List Value} (hitems : List.Forall₂ Reordered items items') :
      Reordered (.array items) (.array items')
  | object {members between members' : List (String × Value)}
      (hvalues : List.Forall₂ (UnderOneKey Reordered) members between)
      (horder : between.Perm members') : Reordered (.object members) (.object members')

theorem KeysDistinct.of_mem_children {v w : Value} (h : v.KeysDistinct) (hw : w ∈ v.children) :
    w.KeysDistinct := by
  cases h with
  | intro _ hchildren => exact hchildren w hw

theorem keys_eq_of_underOneKey {R : Value → Value → Prop} {members members' : List (String × Value)}
    (h : List.Forall₂ (UnderOneKey R) members members') :
    members.map (·.1) = members'.map (·.1) := by
  induction h with
  | nil => rfl
  | cons hm _ ih =>
    cases hm with
    | intro => rw [List.map_cons, List.map_cons, ih]

theorem lookup_underOneKey {R : Value → Value → Prop} {members members' : List (String × Value)}
    (h : List.Forall₂ (UnderOneKey R) members members') (key : String) :
    Option.Rel R (members.lookup key) (members'.lookup key) := by
  induction h with
  | nil => exact .none
  | cons hm _ ih =>
    obtain ⟨hvalue⟩ := hm
    rw [List.lookup_cons, List.lookup_cons]
    split
    · exact .some hvalue
    · exact ih

/-- The order of members is nothing to a key that stands among them once. -/
theorem lookup_perm {members members' : List (String × Value)}
    (hkeys : (members.map (·.1)).Nodup) (h : members.Perm members') (key : String) :
    members.lookup key = members'.lookup key := by
  have hkeys' : (members'.map (·.1)).Nodup := (h.map _).nodup_iff.mp hkeys
  ext w
  rw [lookup_eq_some_iff_mem hkeys, lookup_eq_some_iff_mem hkeys', h.mem_iff]

/-- Under a key both have nothing, or the same up to order. -/
theorem Reordered.get?_cases {v w : Value} (h : v.Reordered w) (hkeys : v.KeysDistinct)
    (key : String) :
    v.get? key = none ∧ w.get? key = none ∨
      ∃ v' w', v.get? key = some v' ∧ w.get? key = some w' ∧ v'.KeysDistinct ∧
        v'.Reordered w' := by
  have hrel : Option.Rel Reordered (v.get? key) (w.get? key) := by
    cases h with
    | refl =>
      cases v.get? key with
      | none => exact .none
      | some u => exact .some (.refl u)
    | array => exact .none
    | object hvalues horder =>
      have hnodup := (keysDistinct_object_iff.mp hkeys).1
      rw [keys_eq_of_underOneKey hvalues] at hnodup
      show Option.Rel Reordered (List.lookup key _) (List.lookup key _)
      rw [← lookup_perm hnodup horder]
      exact lookup_underOneKey hvalues key
  match hv : v.get? key, hw : w.get? key, hrel with
  | none, none, .none => exact Or.inl ⟨rfl, rfl⟩
  | some v', some w', .some hvalue =>
    exact Or.inr ⟨v', w', rfl, rfl, hkeys.of_mem_children (mem_children_of_get? hv), hvalue⟩

end Json.Value

namespace FieldPath

open Value

/-! ## What is collected from them -/

theorem perm_flatMap_of_underOneKey {R : Value → Value → Prop}
    {f : String × Value → List FieldPath} {members members' : List (String × Value)}
    (h : List.Forall₂ (UnderOneKey R) members members')
    (hf : ∀ key v w, (key, v) ∈ members → R v w → (f (key, v)).Perm (f (key, w))) :
    (members.flatMap f).Perm (members'.flatMap f) := by
  induction h with
  | nil => exact .refl []
  | cons hm hrest ih =>
    obtain ⟨hvalue⟩ := hm
    rw [List.flatMap_cons, List.flatMap_cons]
    refine (hf _ _ _ List.mem_cons_self hvalue).append (ih fun key v w hmem => ?_)
    exact hf key v w (List.mem_cons_of_mem _ hmem)

/-- A leaf is the same field with the same variant. -/
theorem ofLeaf_eq_of_reordered {v w : Value} (h : v.Reordered w) (hkeys : v.KeysDistinct)
    (path : String) : ofLeaf path v = ofLeaf path w := by
  have htype : (v.get? "type").bind Value.string? = (w.get? "type").bind Value.string? := by
    rcases h.get?_cases hkeys "type" with ⟨hv, hw⟩ | ⟨v', w', hv, hw, -, hvalue⟩
    · rw [hv, hw]
    · rw [hv, hw]
      cases hvalue <;> rfl
  have hvariant : ((v.get? "fields").bind (Value.get? "keyword")).isSome =
      ((w.get? "fields").bind (Value.get? "keyword")).isSome := by
    rcases h.get?_cases hkeys "fields" with ⟨hv, hw⟩ | ⟨v', w', hv, hw, hkeys', hvalue⟩
    · rw [hv, hw]
    · rw [hv, hw, Option.bind_some, Option.bind_some]
      rcases hvalue.get?_cases hkeys' "keyword" with ⟨hv', hw'⟩ | ⟨_, _, hv', hw', -, -⟩
      · rw [hv', hw']
      · rw [hv', hw']
        rfl
  simp only [ofLeaf, htype, hvariant]

/-- Properties and definitions hold the same fields, up to order. -/
theorem perm_ofProperties_and_perm_ofDefinition (v : Value) :
    ∀ {w : Value}, v.Reordered w → v.KeysDistinct →
      (∀ above, (ofProperties above v).Perm (ofProperties above w)) ∧
      ∀ path, (ofDefinition path v).Perm (ofDefinition path w) := by
  induction v using Value.induction with
  | step v ih =>
    intro w h hkeys
    constructor
    · intro above
      cases h with
      | refl => exact .refl _
      | array => exact .refl []
      | object hvalues horder =>
        rw [ofProperties, ofProperties, ofDefinitions_eq_flatMap, ofDefinitions_eq_flatMap]
        refine (perm_flatMap_of_underOneKey hvalues ?_).trans (horder.flatMap_right _)
        intro key v' w' hmem hvalue
        have hchild : v' ∈ Value.children (.object _) := List.mem_map_of_mem hmem
        exact (ih v' hchild hvalue (hkeys.of_mem_children hchild)).2 _
    · intro path
      rw [ofDefinition_eq, ofDefinition_eq]
      rcases h.get?_cases hkeys "properties" with ⟨hv, hw⟩ | ⟨v', w', hv, hw, hkeys', hvalue⟩
      · rw [hv, hw]
        exact .of_eq (ofLeaf_eq_of_reordered h hkeys path)
      · rw [hv, hw]
        exact (ih v' (mem_children_of_get? hv) hvalue hkeys').1 path

theorem perm_collect (v : Value) :
    ∀ {w : Value}, v.Reordered w → v.KeysDistinct → (collect v).Perm (collect w) := by
  induction v using Value.induction with
  | step v ih =>
    intro w h hkeys
    have hproperties := h.get?_cases hkeys "properties"
    cases h with
    | refl => exact .refl _
    | array => exact .refl []
    | object hvalues horder =>
      rw [collect_object, collect_object]
      rcases hproperties with ⟨hv, hw⟩ | ⟨v', w', hv, hw, hkeys', hvalue⟩
      · rw [hv, hw]
        refine (perm_flatMap_of_underOneKey hvalues ?_).trans (horder.flatMap_right _)
        intro key v' w' hmem hvalue
        have hchild : v' ∈ Value.children (.object _) := List.mem_map_of_mem hmem
        exact ih v' hchild hvalue (hkeys.of_mem_children hchild)
      · rw [hv, hw]
        exact (perm_ofProperties_and_perm_ofDefinition v' hvalue hkeys').1 ""

/-! ## Lists in order -/

instance : Std.Irrefl Before := ⟨fun _ h => h.asymm h⟩

instance : Std.Antisymm Before := ⟨fun _ _ hab hba => absurd hba hab.asymm⟩

/-- Two mappings have one list if they have the same fields. -/
theorem ofMapping_eq_of_mem_iff {v w : Value} (h : ∀ f, f ∈ ofMapping v ↔ f ∈ ofMapping w) :
    ofMapping v = ofMapping w :=
  (pairwise_ofMapping v).eq_of_mem_iff (pairwise_ofMapping w) h

theorem ofMapping_eq_of_reordered {v w : Value} (h : v.Reordered w) (hkeys : v.KeysDistinct) :
    ofMapping v = ofMapping w := by
  refine ofMapping_eq_of_mem_iff fun f => ?_
  rw [mem_ofMapping_iff, mem_ofMapping_iff, ← mem_collect_iff, ← mem_collect_iff,
    (perm_collect v h hkeys).mem_iff]

/-- The fields of several lists in one, the lesser ones first and none twice. -/
structure IsMerge (lists : List (List FieldPath)) (merged : List FieldPath) : Prop where
  ordered : merged.Pairwise Before
  mem_iff : ∀ f, f ∈ merged ↔ ∃ list ∈ lists, f ∈ list

/-- There is only one such list. -/
theorem IsMerge.unique {lists : List (List FieldPath)} {merged merged' : List FieldPath}
    (h : IsMerge lists merged) (h' : IsMerge lists merged') : merged = merged' :=
  h.ordered.eq_of_mem_iff h'.ordered fun f => by rw [h.mem_iff, h'.mem_iff]

/-! ## Documents in a document -/

/-- None of the members stands under the key that begins the fields. -/
def OutsideProperties (members : List (String × Value)) : Prop :=
  ∀ m ∈ members, m.1 ≠ "properties"

theorem get?_properties_eq_none {members : List (String × Value)} (h : OutsideProperties members) :
    (Value.object members).get? "properties" = none := by
  rw [Value.get?, List.lookup_eq_none_iff]
  intro m hm
  simpa using (h m hm).symm

/-- Around the properties a document is what is in it. -/
theorem isMerge_ofMapping {members : List (String × Value)} (h : OutsideProperties members) :
    IsMerge (members.map fun m => ofMapping m.2) (ofMapping (.object members)) where
  ordered := pairwise_ofMapping _
  mem_iff f := by
    have hcollect : collect (.object members) = members.flatMap fun m => collect m.2 := by
      rw [collect_object, get?_properties_eq_none h]
      rfl
    rw [mem_ofMapping_iff, ← mem_collect_iff, hcollect, List.mem_flatMap]
    simp only [List.mem_map, exists_exists_and_eq_and, mem_ofMapping_iff, mem_collect_iff]

theorem mem_ofMapping_object_iff {members : List (String × Value)} (h : OutsideProperties members)
    {f : FieldPath} : f ∈ ofMapping (.object members) ↔ ∃ v ∈ members.map (·.2), f ∈ ofMapping v := by
  rw [(isMerge_ofMapping h).mem_iff]
  simp only [List.mem_map, exists_exists_and_eq_and]

/-- The second document is the first with one more object around what stands at some place outside
the properties. -/
inductive Wrapped : Value → Value → Prop
  | here {key : String} (hkey : key ≠ "properties") (v : Value) : Wrapped v (.object [(key, v)])
  | inside {before after : List (String × Value)} {key : String} {v w : Value}
      (houtside : OutsideProperties (before ++ (key, v) :: after)) (h : Wrapped v w) :
      Wrapped (.object (before ++ (key, v) :: after)) (.object (before ++ (key, w) :: after))

theorem ofMapping_eq_of_wrapped {v w : Value} (h : Wrapped v w) : ofMapping v = ofMapping w := by
  induction h with
  | here hkey v =>
    refine ofMapping_eq_of_mem_iff fun f => ?_
    rw [mem_ofMapping_object_iff (List.forall_mem_singleton.mpr hkey)]
    simp
  | @inside before after key v w houtside _ ih =>
    have houtside' : OutsideProperties (before ++ (key, w) :: after) := by
      simpa [OutsideProperties, or_imp, forall_and] using houtside
    -- what is merged on both sides differs in no list
    have hlists : (before ++ (key, v) :: after).map (fun m => ofMapping m.2) =
        (before ++ (key, w) :: after).map fun m => ofMapping m.2 := by
      rw [List.map_append, List.map_append, List.map_cons, List.map_cons, ih]
    have hmerge := isMerge_ofMapping houtside
    rw [hlists] at hmerge
    exact hmerge.unique (isMerge_ofMapping houtside')

/-! ## Presentations -/

/-- Mappings that differ in the order of keys have one list of field paths. Outside the properties
the list of a document is the merge of the lists of the documents in it: their names and their order
are nothing to it, nor is one more object around any of them; and one more document takes nothing
away, and adds nothing if its fields are there already. -/
theorem ofMapping_ignores_presentation :
    (∀ v w : Value, v.KeysDistinct → v.Reordered w → ofMapping v = ofMapping w) ∧
    (∀ members, OutsideProperties members →
      IsMerge (members.map fun m => ofMapping m.2) (ofMapping (.object members))) ∧
    (∀ members members', OutsideProperties members → OutsideProperties members' →
      (members.map (·.2)).Perm (members'.map (·.2)) →
        ofMapping (.object members) = ofMapping (.object members')) ∧
    (∀ v w, Wrapped v w → ofMapping v = ofMapping w) ∧
    ∀ members key v, OutsideProperties ((key, v) :: members) →
      ofMapping (.object members) ⊆ ofMapping (.object ((key, v) :: members)) ∧
      (ofMapping v ⊆ ofMapping (.object members) →
        ofMapping (.object ((key, v) :: members)) = ofMapping (.object members)) := by
  refine ⟨fun v w hkeys h => ofMapping_eq_of_reordered h hkeys,
    fun members => isMerge_ofMapping, fun members members' h h' hperm => ?_,
    fun v w => ofMapping_eq_of_wrapped, fun members key v h => ?_⟩
  · refine ofMapping_eq_of_mem_iff fun f => ?_
    simp only [mem_ofMapping_object_iff h, mem_ofMapping_object_iff h', hperm.mem_iff]
  · have hmembers : OutsideProperties members := (List.forall_mem_cons.mp h).2
    have hfields (f : FieldPath) : f ∈ ofMapping (.object ((key, v) :: members)) ↔
        f ∈ ofMapping v ∨ f ∈ ofMapping (.object members) := by
      rw [mem_ofMapping_object_iff h, mem_ofMapping_object_iff hmembers, List.map_cons,
        List.exists_mem_cons_iff]
    refine ⟨fun f hf => (hfields f).mpr (Or.inr hf), fun hknown => ?_⟩
    refine ofMapping_eq_of_mem_iff fun f => ?_
    rw [hfields]
    exact or_iff_right_of_imp (hknown ·)

/-- An index in which ages have this type. -/
def ofAges (type : String) : Value :=
  .object [("mappings", .object [("properties", .object
    [("name", .object [("type", .string "keyword")]),
      ("age", .object [("type", .string type)])])])]

/-- The same index with its fields the other way round. -/
def ofAgesReordered (type : String) : Value :=
  .object [("mappings", .object [("properties", .object
    [("age", .object [("type", .string type)]),
      ("name", .object [("type", .string "keyword")])])])]

/-- Ages have two types, and both are listed. -/
example : ofMapping (.object [("2024", ofAges "integer"), ("2025", ofAges "long")]) =
    [⟨"age", "integer"⟩, ⟨"age", "long"⟩, ⟨"name", "keyword"⟩] := by
  cbv

/-- Two indices in another order, in each of which the fields are too; under other names, one of
them in one more object; and with an index that is there already. -/
theorem ofMapping_ignores_presentation_ofAges :
    ofMapping (.object [("2024", ofAges "integer"), ("2025", ofAges "long")]) =
      ofMapping (.object [("2025", ofAgesReordered "long"), ("2024", ofAgesReordered "integer")]) ∧
    IsMerge [ofMapping (ofAges "integer"), ofMapping (ofAges "long")]
      (ofMapping (.object [("2024", ofAges "integer"), ("2025", ofAges "long")])) ∧
    ofMapping (.object [("2024", ofAges "integer"), ("2025", ofAges "long")]) =
      ofMapping (.object [("new", ofAges "long"), ("old", ofAges "integer")]) ∧
    ofMapping (.object [("2024", ofAges "integer"), ("2025", ofAges "long")]) =
      ofMapping (.object [("2024", ofAges "integer"), ("2025", .object [("all", ofAges "long")])]) ∧
    ofMapping (.object [("2023", ofAges "long"), ("2024", ofAges "integer"),
        ("2025", ofAges "long")]) =
      ofMapping (.object [("2024", ofAges "integer"), ("2025", ofAges "long")]) := by
  have hreordered (type : String) : (ofAges type).Reordered (ofAgesReordered type) :=
    .object (.cons (.intro (.object (.cons (.intro (.object
      (.cons (.intro (.refl _)) (.cons (.intro (.refl _)) .nil)) (.swap ..))) .nil)
        (.refl _))) .nil) (.refl _)
  have hkeys : (Value.object [("2024", ofAges "integer"), ("2025", ofAges "long")]).KeysDistinct := by
    simp [ofAges, keysDistinct_object_iff, keysDistinct_string]
  have houtside : OutsideProperties [("2024", ofAges "integer"), ("2025", ofAges "long")] := by
    simp [OutsideProperties]
  have hrenamed : OutsideProperties [("new", ofAges "long"), ("old", ofAges "integer")] := by
    simp [OutsideProperties]
  have hmore : OutsideProperties [("2023", ofAges "long"), ("2024", ofAges "integer"),
      ("2025", ofAges "long")] := by
    simp [OutsideProperties]
  obtain ⟨horder, hmerge, hnames, hwrapped, hadded⟩ := ofMapping_ignores_presentation
  have hinside : Wrapped (.object [("2024", ofAges "integer"), ("2025", ofAges "long")])
      (.object [("2024", ofAges "integer"), ("2025", .object [("all", ofAges "long")])]) :=
    @Wrapped.inside [("2024", ofAges "integer")] [] "2025" _ _ houtside (.here (by decide) _)
  have hlong : ofMapping (ofAges "long") ⊆
      ofMapping (.object [("2024", ofAges "integer"), ("2025", ofAges "long")]) := fun f hf =>
    ((hmerge _ houtside).mem_iff f).mpr ⟨_, by simp, hf⟩
  exact ⟨horder _ _ hkeys (.object (.cons (.intro (hreordered "integer"))
      (.cons (.intro (hreordered "long")) .nil)) (.swap ..)),
    hmerge _ houtside, hnames _ _ houtside hrenamed (.swap ..), hwrapped _ _ hinside,
    (hadded _ _ _ hmore).2 hlong⟩

end FieldPath

end SearchQuery
