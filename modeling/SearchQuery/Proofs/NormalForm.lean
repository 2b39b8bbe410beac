import SearchQuery.Proofs.Outcome
import SearchQuery.Proofs.Rendering

/-!
# What the text of a compiled query tells of the query

Compilation forgets how a condition was spelled, the conditions that it dropped, the operator of a
group without conditions of its own, sizes and offsets that are not positive, and a condition tree
in which nothing is left. `Query.normalForm` is what remains, and the text determines it.

The conditions of a group become clauses that are not boolean, a nested group becomes a boolean
one; so they can be told apart in the one bucket in which they may meet.

Main statement: `compileText_eq_iff_normalForm_eq`.
-/

namespace SearchQuery

open Json

/-! ## Normal forms -/

/-- The clauses of the conditions in a group, how they are joined, and the groups nested below
them. Without conditions there is nothing to join. -/
structure ConditionGroup.NormalForm where
  operator : Option GroupOperator
  direct : List Clause
  groups : List NormalForm

/-- Nothing is left in the group. -/
def ConditionGroup.NormalForm.isEmpty (f : NormalForm) : Bool :=
  f.direct.isEmpty && f.groups.isEmpty

/-- The normal form of a group. In a tree that compiles, the conditions without a clause are those
that the policy drops. -/
def ConditionGroup.normalForm : ConditionGroup → NormalForm
  | ⟨operator, conditions, groups⟩ =>
    let direct := conditions.filterMap Condition.clause?
    ⟨if direct.isEmpty then none else some operator, direct, normalFormAll groups⟩
where
  /-- The normal forms of several groups. -/
  normalFormAll : List ConditionGroup → List NormalForm
    | [] => []
    | g :: rest => g.normalForm :: normalFormAll rest

/-- What a query asks for; sizes and offsets are positive. -/
structure Query.NormalForm where
  columns : List String
  size : Option Int64
  offset : Option Int64
  sortBy : List SortKey
  tree : Option ConditionGroup.NormalForm

/-- The word, if it is positive. -/
def positive? (x : Int64) : Option Int64 := if 0 < x then some x else none

/-- The normal form of a query. -/
def Query.normalForm (q : Query) : NormalForm where
  columns := q.columns
  size := positive? q.size
  offset := positive? q.offset
  sortBy := q.sortBy
  tree := (q.conditions.map ConditionGroup.normalForm).filter fun f => !f.isEmpty

/-! ## Conditions -/

/-- The clause is not boolean. -/
def Clause.isLeaf : Clause → Bool
  | boolean _ => false
  | _ => true

namespace Condition

/-- A condition becomes a match or a range. -/
theorem clause_eq_match_or_range {c : Condition} {clause : Clause} (h : c.clause = .ok clause) :
    (∃ value, clause = .matchField c.field value) ∨ ∃ bounds, clause = .range c.field bounds := by
  obtain ⟨o, -, htemplate⟩ := template_of_clause h
  rcases htemplate with ⟨make, v, hmake, -, rfl⟩ | ⟨make, v, w, hmake, -, rfl⟩ <;>
    cases o <;> cases hmake <;> simp

/-- The clauses of conditions are not boolean and have no settings without effect. -/
theorem isLeaf_and_normal_of_mem_filterMap {conditions : List Condition} :
    ∀ clause ∈ conditions.filterMap clause?, clause.isLeaf = true ∧ clause.normal = clause := by
  intro clause hmem
  obtain ⟨c, -, hc⟩ := List.mem_filterMap.mp hmem
  have hclause : c.clause = .ok clause := clause?_eq_some_iff.mp hc
  rcases clause_eq_match_or_range hclause with ⟨value, rfl⟩ | ⟨bounds, rfl⟩ <;> exact ⟨rfl, rfl⟩

theorem isLeaf_of_mem_filterMap {conditions : List Condition} :
    ∀ clause ∈ conditions.filterMap clause?, clause.isLeaf = true :=
  fun clause hmem => (isLeaf_and_normal_of_mem_filterMap clause hmem).1

theorem map_normal_filterMap (conditions : List Condition) :
    (conditions.filterMap clause?).map Clause.normal = conditions.filterMap clause? := by
  have hnormal : ∀ clause ∈ conditions.filterMap clause?, clause.normal = id clause :=
    fun clause hmem => (isLeaf_and_normal_of_mem_filterMap clause hmem).2
  rw [List.map_congr_left hnormal, List.map_id]

end Condition

/-! ## Groups -/

namespace Buckets

/-- The clauses in the buckets of a group that come from its conditions. -/
def leaves (b : BooleanClause) : List Clause := b.must.filter Clause.isLeaf ++ b.should

/-- The clauses in the buckets of a group that come from the groups nested in it. -/
def branches (b : BooleanClause) : List Clause := b.must.filter fun c => !c.isLeaf

/-- The operator of a group, if there is something to join. -/
def operator? (b : BooleanClause) : Option GroupOperator :=
  if b.leaves.isEmpty then none
  else if b.should.isEmpty then some .and
  else some .or

end Buckets

namespace GroupOperator

variable {direct : List Clause} {nested : List BooleanClause}

theorem filter_isLeaf_nested : (nested.map Clause.boolean).filter Clause.isLeaf = [] := by
  rw [List.filter_eq_nil_iff]
  intro c hc
  obtain ⟨b, -, rfl⟩ := List.mem_map.mp hc
  exact Bool.false_ne_true

theorem filter_not_isLeaf_nested :
    ((nested.map Clause.boolean).filter fun c => !c.isLeaf) = nested.map Clause.boolean := by
  rw [List.filter_eq_self]
  intro c hc
  obtain ⟨b, -, rfl⟩ := List.mem_map.mp hc
  rfl

theorem leaves_join (o : GroupOperator) (h : ∀ c ∈ direct, c.isLeaf = true) :
    (o.join direct nested).leaves = direct := by
  cases o with
  | and =>
    show (direct ++ nested.map Clause.boolean).filter Clause.isLeaf ++ [] = direct
    rw [List.append_nil, List.filter_append, List.filter_eq_self.mpr h, filter_isLeaf_nested,
      List.append_nil]
  | or =>
    show (nested.map Clause.boolean).filter Clause.isLeaf ++ direct = direct
    rw [filter_isLeaf_nested, List.nil_append]

theorem branches_join (o : GroupOperator) (h : ∀ c ∈ direct, c.isLeaf = true) :
    (o.join direct nested).branches = nested.map Clause.boolean := by
  cases o with
  | and =>
    have hdirect : (direct.filter fun c => !c.isLeaf) = [] := by
      rw [List.filter_eq_nil_iff]
      intro c hc
      rw [h c hc]
      exact Bool.false_ne_true
    show (direct ++ nested.map Clause.boolean).filter (fun c => !c.isLeaf) = _
    rw [List.filter_append, hdirect, filter_not_isLeaf_nested, List.nil_append]
  | or => exact filter_not_isLeaf_nested

theorem operator?_join (o : GroupOperator) (h : ∀ c ∈ direct, c.isLeaf = true) :
    (o.join direct nested).operator? = if direct.isEmpty then none else some o := by
  rw [Buckets.operator?, leaves_join o h]
  cases o with
  | and => rfl
  | or =>
    show (if direct.isEmpty then none else if direct.isEmpty then _ else _) = _
    cases direct.isEmpty <;> rfl

/-- The buckets of a group tell its clauses, the groups nested in it and, if there are clauses to
join, its operator. -/
theorem join_eq_join_iff {o o' : GroupOperator} {direct' : List Clause}
    {nested' : List BooleanClause} (h : ∀ c ∈ direct, c.isLeaf = true)
    (h' : ∀ c ∈ direct', c.isLeaf = true) :
    o.join direct nested = o'.join direct' nested' ↔
      (if direct.isEmpty then none else some o) = (if direct'.isEmpty then none else some o') ∧
        direct = direct' ∧ nested = nested' := by
  constructor
  · intro hjoin
    have hoperator := congrArg Buckets.operator? hjoin
    have hleaves := congrArg Buckets.leaves hjoin
    have hbranches := congrArg Buckets.branches hjoin
    rw [operator?_join o h, operator?_join o' h'] at hoperator
    rw [leaves_join o h, leaves_join o' h'] at hleaves
    rw [branches_join o h, branches_join o' h'] at hbranches
    exact ⟨hoperator, hleaves, (List.map_inj_right fun _ _ => Clause.boolean.inj).mp hbranches⟩
  · rintro ⟨hoperator, rfl, rfl⟩
    cases hempty : direct.isEmpty with
    | true =>
      -- with nothing to join, both operators leave what should hold empty
      obtain rfl : direct = [] := List.isEmpty_iff.mp hempty
      cases o <;> cases o' <;> rfl
    | false =>
      rw [hempty] at hoperator
      rw [Option.some.inj hoperator]

/-- Joining brings in no settings without effect. -/
theorem normal_boolean_join (o : GroupOperator) (hdirect : direct.map Clause.normal = direct)
    (hnested : (nested.map Clause.boolean).map Clause.normal = nested.map Clause.boolean) :
    (Clause.boolean (o.join direct nested)).normal = .boolean (o.join direct nested) := by
  rw [Clause.normal_boolean]
  cases o with
  | and =>
    show Clause.boolean
      ⟨(direct ++ nested.map Clause.boolean).map Clause.normal, [], [], [], none⟩ = _
    rw [List.map_append, hdirect, hnested]
    rfl
  | or =>
    show Clause.boolean ⟨(nested.map Clause.boolean).map Clause.normal, direct.map Clause.normal,
      [], [], if direct.isEmpty then none else if direct.isEmpty then none else some 1⟩ = _
    rw [hdirect, hnested]
    cases direct <;> rfl

theorem isEmpty_join (o : GroupOperator) :
    (o.join direct nested).isEmpty = (direct.isEmpty && nested.isEmpty) := by
  cases direct <;> cases nested <;> cases o <;> rfl

end GroupOperator

namespace ConditionGroup

theorem normalFormAll_eq_map (groups : List ConditionGroup) :
    normalForm.normalFormAll groups = groups.map normalForm :=
  eq_map_of_cons rfl (fun _ _ => rfl) groups

theorem normalForm_mk (operator : GroupOperator) (conditions : List Condition)
    (groups : List ConditionGroup) :
    normalForm ⟨operator, conditions, groups⟩ =
      ⟨if (conditions.filterMap Condition.clause?).isEmpty then none else some operator,
        conditions.filterMap Condition.clause?, groups.map normalForm⟩ := by
  rw [normalForm, normalFormAll_eq_map]

/-- The boolean clauses of two groups are equal exactly if their normal forms are. -/
theorem translation_eq_iff {g g' : ConditionGroup} :
    g.translation = g'.translation ↔ g.normalForm = g'.normalForm := by
  -- both directions at once, for the nested groups are compared in both
  induction g generalizing g' with
  | group operator conditions groups ih =>
    rcases g' with ⟨operator', conditions', groups'⟩
    have hgroups : groups.map translation = groups'.map translation ↔
        groups.map normalForm = groups'.map normalForm := by
      constructor
      · exact map_eq_map_of_forall fun g hg g' => (ih g hg).mp
      · exact map_eq_map_of_forall fun g hg g' => (ih g hg).mpr
    rw [translation_mk, translation_mk, normalForm_mk, normalForm_mk, NormalForm.mk.injEq,
      GroupOperator.join_eq_join_iff Condition.isLeaf_of_mem_filterMap
        Condition.isLeaf_of_mem_filterMap, hgroups]

/-- Nothing in the boolean clause of a group is without effect. -/
theorem normal_boolean_translation (g : ConditionGroup) :
    (Clause.boolean g.translation).normal = .boolean g.translation := by
  induction g with
  | group operator conditions groups ih =>
    have hnested : ((groups.map translation).map Clause.boolean).map Clause.normal =
        (groups.map translation).map Clause.boolean := by
      simp only [List.map_map]
      exact List.map_congr_left ih
    rw [translation_mk]
    exact operator.normal_boolean_join (Condition.map_normal_filterMap conditions) hnested

/-- The buckets of a group are empty exactly if nothing is left in it. -/
theorem isEmpty_translation (g : ConditionGroup) :
    g.translation.isEmpty = g.normalForm.isEmpty := by
  rcases g with ⟨operator, conditions, groups⟩
  rw [translation_mk, normalForm_mk, GroupOperator.isEmpty_join, NormalForm.isEmpty,
    List.isEmpty_map, List.isEmpty_map]

end ConditionGroup

/-! ## Queries -/

/-- A positive number is known from the word without a sign. -/
theorem positive?_inj {x y : Int64}
    (h : (positive? x).bind natural? = (positive? y).bind natural?) :
    positive? x = positive? y := by
  have hsome {z : Int64} (hz : 0 < z) : ∃ w, natural? z = some w :=
    exists_natural? (Int64.le_of_lt hz)
  unfold positive? at h ⊢
  by_cases hx : 0 < x <;> by_cases hy : 0 < y
  · obtain ⟨w, hw⟩ := hsome hx
    rw [if_pos hx, if_pos hy, Option.bind_some, Option.bind_some, hw] at h
    have hxw : (w.toNat : Int) = x.toInt := natural?_eq_some_iff.mp hw
    have hyw : (w.toNat : Int) = y.toInt := natural?_eq_some_iff.mp h.symm
    have hxy : x = y := Int64.toInt_inj.mp (hxw.symm.trans hyw)
    rw [hxy]
  · -- a positive word is never unset
    obtain ⟨w, hw⟩ := hsome hx
    simp [hx, hy, hw] at h
  · obtain ⟨w, hw⟩ := hsome hy
    simp [hx, hy, hw] at h
  · rw [if_neg hx, if_neg hy]

/-- A size that is not positive is passed on as a negative one, which is unset. -/
theorem natural?_size (x : Int64) :
    natural? (if 0 < x then x else -1) = (positive? x).bind natural? := by
  unfold positive?
  by_cases hx : 0 < x
  · rw [if_pos hx, if_pos hx, Option.bind_some]
  · rw [if_neg hx, if_neg hx]
    rfl

/-- An offset of zero is a word without a sign, but is unset too. -/
theorem filter_natural? (x : Int64) :
    (natural? x).filter (0 < ·) = (positive? x).bind natural? := by
  have hpositive {w : UInt64} (hw : natural? x = some w) : 0 < w ↔ 0 < x := by
    have hvalue : (w.toNat : Int) = x.toInt := natural?_eq_some_iff.mp hw
    rw [UInt64.lt_iff_toNat_lt, Int64.lt_iff_toInt_lt, ← hvalue]
    exact Int.natCast_pos.symm
  unfold positive?
  cases hn : natural? x with
  | none => split <;> simp [hn]
  | some w =>
    by_cases hx : 0 < x
    · rw [if_pos hx, Option.bind_some, hn]
      exact Option.filter_some_pos (decide_eq_true ((hpositive hn).mpr hx))
    · have hw : ¬0 < w := fun hw => hx ((hpositive hn).mp hw)
      rw [if_neg hx]
      exact Option.filter_some_neg (by simpa using hw)

namespace Query

/-- The condition tree, if something is left in it. -/
def tree? (q : Query) : Option ConditionGroup :=
  q.conditions.filter fun g => !g.normalForm.isEmpty

theorem tree_normalForm (q : Query) :
    q.normalForm.tree = q.tree?.map ConditionGroup.normalForm :=
  Option.filter_map

/-- A tree in which nothing is left leads to a request for everything. -/
theorem query_translation (q : Query) :
    q.translation.query = match q.tree? with
      | some g => .boolean g.translation
      | none => .matchAll := by
  unfold translation tree? RequestBuilder.build RequestBuilder.query
  cases q.conditions with
  | none => rfl
  | some g =>
    have hempty := g.isEmpty_translation
    cases h : g.normalForm.isEmpty <;>
      simp_all [Option.filter_some, builder, Collector.isEmpty]

theorem query_translation_eq_iff {q q' : Query} :
    q.translation.query = q'.translation.query ↔ q.normalForm.tree = q'.normalForm.tree := by
  rw [query_translation, query_translation, tree_normalForm, tree_normalForm]
  cases q.tree? <;> cases q'.tree? <;> simp [ConditionGroup.translation_eq_iff]

theorem projection_builder_eq_iff {q q' : Query} :
    q.builder.projection = q'.builder.projection ↔ q.columns = q'.columns := by
  unfold RequestBuilder.projection builder
  cases q.columns <;> cases q'.columns <;> simp

/-- The parts of a query's request. -/
theorem translation_eq (q : Query) :
    q.translation =
      ⟨(positive? q.size).bind natural?, (positive? q.offset).bind natural?, q.builder.projection,
        q.sortBy, q.translation.query⟩ := by
  rw [← natural?_size, ← filter_natural?]
  rfl

/-- The requests of two queries are equal exactly if their normal forms are. -/
theorem translation_eq_iff {q q' : Query} :
    q.translation = q'.translation ↔ q.normalForm = q'.normalForm := by
  constructor
  · intro h
    rw [translation_eq q, translation_eq q'] at h
    obtain ⟨hsize, hstart, hprojection, hsort, hquery⟩ := SearchRequest.mk.inj h
    have hcolumns : q.columns = q'.columns := projection_builder_eq_iff.mp hprojection
    have htree : q.normalForm.tree = q'.normalForm.tree := query_translation_eq_iff.mp hquery
    show NormalForm.mk _ _ _ _ q.normalForm.tree = NormalForm.mk _ _ _ _ q'.normalForm.tree
    rw [hcolumns, positive?_inj hsize, positive?_inj hstart, hsort, htree]
  · intro h
    obtain ⟨hcolumns, hsize, hoffset, hsort, htree⟩ := NormalForm.mk.inj h
    have hprojection := projection_builder_eq_iff.mpr hcolumns
    have hquery := query_translation_eq_iff.mpr htree
    rw [translation_eq q, translation_eq q', hsize, hoffset, hprojection, hsort, hquery]

/-- Nothing in the request of a query is without effect. -/
theorem normal_translation (q : Query) : q.translation.normal = q.translation := by
  have hquery : q.translation.query.normal = q.translation.query := by
    rw [query_translation]
    cases q.tree? with
    | none => rfl
    | some g => exact g.normal_boolean_translation
  rw [SearchRequest.normal, hquery]

/-- A query comes to the first fault of its condition tree, else to the text of its translation. -/
theorem result_compileText (l : Layout) (options : CompileOptions) (q : Query) :
    (q.compileText l options).result =
      outcome (q.fault? options) (q.translation.text l) := by
  rw [compileText, Run.result_bind, result_compile]
  exact outcome_map ..

end Query

/-- Two queries that compile have one text exactly if they have one normal form: nothing else of a
query is lost, and no two things are taken for each other. -/
theorem compileText_eq_iff_normalForm_eq (l : Layout) {options : CompileOptions} {q q' : Query}
    {text text' : String} (h : (q.compileText l options).result = .ok text)
    (h' : (q'.compileText l options).result = .ok text') :
    text = text' ↔ q.normalForm = q'.normalForm := by
  rw [Query.result_compileText, outcome_eq_ok_iff] at h h'
  obtain ⟨-, rfl⟩ := h
  obtain ⟨-, rfl⟩ := h'
  rw [SearchRequest.text_eq_iff, q.normal_translation, q'.normal_translation,
    Query.translation_eq_iff]

/-- Everyone of age, with a nested group in which there is nothing to join. -/
def Query.ofAge : Query where
  size := 0
  conditions := some
    { conditions := [⟨"age", "gte", ["18"]⟩]
      groups := [{ operator := .or }] }

/-- The same with a range that is open above, a condition that has no clause, and other words for
what is unset. -/
def Query.ofAgeRespelled : Query where
  size := -7
  offset := -1
  conditions := some
    { conditions := [⟨"id", "neq", []⟩, ⟨"age", " Between", ["18", ""]⟩]
      groups := [{ operator := .and }] }

/-- The request of both. -/
def SearchRequest.ofAge : SearchRequest where
  query := .boolean { must := [.range "age" { gte := some "18" }, .boolean {}] }

/-- Two spellings of a query have the same text, and so one normal form. -/
theorem compileText_eq_iff_normalForm_eq_ofAge :
    (Query.ofAge.compileText .indented { onUnsupported := .skip }).result =
      .ok (SearchRequest.ofAge.text .indented) ∧
    (Query.ofAgeRespelled.compileText .indented { onUnsupported := .skip }).result =
      .ok (SearchRequest.ofAge.text .indented) ∧
    Query.ofAge.normalForm = Query.ofAgeRespelled.normalForm := by
  have h : (Query.ofAge.compileText .indented { onUnsupported := .skip }).result =
      .ok (SearchRequest.ofAge.text .indented) := rfl
  have h' : (Query.ofAgeRespelled.compileText .indented { onUnsupported := .skip }).result =
      .ok (SearchRequest.ofAge.text .indented) := rfl
  exact ⟨h, h', (compileText_eq_iff_normalForm_eq .indented h h').mp rfl⟩

end SearchQuery
