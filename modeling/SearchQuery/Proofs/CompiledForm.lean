import SearchQuery.Proofs.ReadingBack

/-!
# The form of a compiled query

A compilation makes only some of the clauses that there are. What it makes is told from the outside:
at every boolean node of the query, two buckets stay empty, conditions that are alternatives stand
alone in theirs, and nested groups come behind whatever else must match. Nor are there more levels
of boolean nodes than groups may nest.

Main statement: `compiled_form`.
-/

namespace SearchQuery

/-! ## The boolean nodes of a clause -/

/-- A boolean node of a clause: the clause itself, or a node of a clause in one of its buckets. -/
inductive Clause.HasNode : Clause → BooleanClause → Prop
  | self (b : BooleanClause) : HasNode (.boolean b) b
  | inside {b node : BooleanClause} {c : Clause} (hmem : c ∈ b.clauses) (h : HasNode c node) :
      HasNode (.boolean b) node

/-- The levels of boolean nodes in a clause. -/
def Clause.levels : Clause → Nat
  | .boolean ⟨must, should, mustNot, filter, _⟩ =>
    max (max (levelsAll must) (levelsAll should)) (max (levelsAll mustNot) (levelsAll filter)) + 1
  | _ => 0
where
  /-- The levels of boolean nodes in one of several clauses. -/
  levelsAll : List Clause → Nat
    | [] => 0
    | c :: rest => max c.levels (levelsAll rest)

namespace Clause

theorem forall_hasNode_boolean_iff {P : BooleanClause → Prop} {b : BooleanClause} :
    (∀ node, (boolean b).HasNode node → P node) ↔
      P b ∧ ∀ c ∈ b.clauses, ∀ node, c.HasNode node → P node := by
  constructor
  · intro h
    exact ⟨h b (.self b), fun c hc node hnode => h node (.inside hc hnode)⟩
  · rintro ⟨hself, hinside⟩ node (_ | ⟨hc, hnode⟩)
    · exact hself
    · exact hinside _ hc node hnode

theorem levelsAll_le_iff {clauses : List Clause} {n : Nat} :
    levels.levelsAll clauses ≤ n ↔ ∀ c ∈ clauses, c.levels ≤ n := by
  induction clauses with
  | nil => simp [levels.levelsAll]
  | cons c rest ih => rw [levels.levelsAll, Nat.max_le, ih, List.forall_mem_cons]

theorem levels_boolean_le_iff {b : BooleanClause} {n : Nat} :
    (boolean b).levels ≤ n + 1 ↔ ∀ c ∈ b.clauses, c.levels ≤ n := by
  obtain ⟨must, should, mustNot, filter, minimum⟩ := b
  simp only [levels, Nat.add_le_add_iff_right, Nat.max_le, levelsAll_le_iff, Buckets.clauses,
    List.forall_mem_append, and_assoc]

end Clause

/-! ## Compiled clauses -/

/-- The ends of a compiled range: none of them is the empty text, and one that is itself left out of
the range is the only one. -/
structure Bounds.IsCompiled (b : Bounds) : Prop where
  gte : b.gte ≠ some ""
  lte : b.lte ≠ some ""
  gt : b.gt ≠ some ""
  lt : b.lt ≠ some ""
  gt_alone : b.gt ≠ none → b.gte = none ∧ b.lte = none ∧ b.lt = none
  lt_alone : b.lt ≠ none → b.gte = none ∧ b.lte = none ∧ b.gt = none

/-- The clause of a condition: a match, or a range with compiled ends. -/
inductive Clause.IsCondition : Clause → Prop
  | matchField (field value : String) : IsCondition (.matchField field value)
  | range (field : String) {bounds : Bounds} (h : bounds.IsCompiled) :
      IsCondition (.range field bounds)

/-- The buckets of a compiled group. -/
structure Buckets.IsCompiled (b : BooleanClause) : Prop where
  mustNot : b.mustNot = []
  filter : b.filter = []
  minimum : b.minimum = if b.should.isEmpty then none else some 1
  should : ∀ c ∈ b.should, c.IsCondition
  /-- Conditions come before groups; if there are alternatives, there are only groups. -/
  must : ∃ (direct : List Clause) (nested : List BooleanClause),
    b.must = direct ++ nested.map Clause.boolean ∧ (∀ c ∈ direct, c.IsCondition) ∧
      (b.should ≠ [] → direct = [])

/-! ## Conditions -/

theorem bound_ne (operand : String) : bound operand ≠ some "" := by
  unfold bound
  split
  · exact nofun
  · next h => simpa using h

/-- An operand of a range becomes a bound, which is never the empty text. -/
theorem Operator.isCondition_of_template? {field : String} {o : Operator} {t : Template}
    (h : o.template? field = some t) : match t with
      | .one make => ∀ v, (make v).IsCondition
      | .two make => ∀ v w, (make v w).IsCondition := by
  cases o with
  | eq | contains =>
    cases h
    exact fun v => .matchField field v
  | between =>
    cases h
    exact fun v w => .range field ⟨bound_ne v, bound_ne w, nofun, nofun, nofun, nofun⟩
  | lt =>
    cases h
    exact fun v => .range field
      ⟨nofun, nofun, nofun, bound_ne v, nofun, fun _ => ⟨rfl, rfl, rfl⟩⟩
  | lte =>
    cases h
    exact fun v => .range field ⟨nofun, bound_ne v, nofun, nofun, nofun, nofun⟩
  | gt =>
    cases h
    exact fun v => .range field
      ⟨nofun, nofun, bound_ne v, nofun, fun _ => ⟨rfl, rfl, rfl⟩, nofun⟩
  | gte =>
    cases h
    exact fun v => .range field ⟨bound_ne v, nofun, nofun, nofun, nofun, nofun⟩
  | neq | hasKey => cases h

namespace Condition

theorem isCondition_clause {c : Condition} {clause : Clause} (h : c.clause = .ok clause) :
    clause.IsCondition := by
  obtain ⟨o, -, htemplate⟩ := template_of_clause h
  rcases htemplate with ⟨make, v, hmake, -, rfl⟩ | ⟨make, v, w, hmake, -, rfl⟩
  · exact Operator.isCondition_of_template? hmake v
  · exact Operator.isCondition_of_template? hmake v w

theorem isCondition_of_mem_filterMap {conditions : List Condition} :
    ∀ clause ∈ conditions.filterMap clause?, clause.IsCondition := by
  intro clause hmem
  obtain ⟨c, -, hc⟩ := List.mem_filterMap.mp hmem
  exact isCondition_clause (clause?_eq_some_iff.mp hc)

end Condition

/-- There is no boolean node in the clause of a condition. -/
theorem Clause.IsCondition.not_hasNode {c : Clause} (h : c.IsCondition) (node : BooleanClause) :
    ¬c.HasNode node := by
  cases h <;> exact nofun

theorem Clause.IsCondition.levels_eq {c : Clause} (h : c.IsCondition) : c.levels = 0 := by
  cases h <;> rfl

/-! ## Groups -/

theorem GroupOperator.isCompiled_join (o : GroupOperator) {direct : List Clause}
    (hdirect : ∀ c ∈ direct, c.IsCondition) (nested : List BooleanClause) :
    (o.join direct nested).IsCompiled := by
  cases o with
  | and =>
    exact {
      mustNot := rfl
      filter := rfl
      minimum := rfl
      should := nofun
      must := ⟨direct, nested, rfl, hdirect, fun h => absurd rfl h⟩ }
  | or =>
    exact {
      mustNot := rfl
      filter := rfl
      minimum := rfl
      should := hdirect
      must := ⟨[], nested, rfl, nofun, fun _ => rfl⟩ }

namespace ConditionGroup

/-- Every node of a compiled group is a compiled group. -/
theorem isCompiled_of_hasNode {g : ConditionGroup} {node : BooleanClause}
    (h : (Clause.boolean g.translation).HasNode node) : node.IsCompiled := by
  -- the statement about all nodes is the one that splits into the group's own and those below
  revert node
  induction g with
  | group operator conditions groups ih =>
    have hdirect : ∀ c ∈ conditions.filterMap Condition.clause?, c.IsCondition :=
      Condition.isCondition_of_mem_filterMap
    rw [translation_mk, Clause.forall_hasNode_boolean_iff]
    refine ⟨operator.isCompiled_join hdirect _, fun c hc node hnode => ?_⟩
    rcases Buckets.mem_clauses_join.mp hc with hcondition | hnested
    · exact absurd hnode ((hdirect c hcondition).not_hasNode node)
    · rw [List.map_map] at hnested
      obtain ⟨g, hg, rfl⟩ := List.mem_map.mp hnested
      exact ih g hg hnode

/-- A compiled group has no more levels of nodes than the group has of groups. -/
theorem levels_translation_le (g : ConditionGroup) :
    (Clause.boolean g.translation).levels ≤ g.depth := by
  induction g with
  | group operator conditions groups ih =>
    rw [translation_mk, depth, Clause.levels_boolean_le_iff]
    intro c hc
    rcases Buckets.mem_clauses_join.mp hc with hcondition | hnested
    · rw [(Condition.isCondition_of_mem_filterMap c hcondition).levels_eq]
      exact Nat.zero_le _
    · rw [List.map_map] at hnested
      obtain ⟨g, hg, rfl⟩ := List.mem_map.mp hnested
      exact Nat.le_trans (ih g hg) (depthAll_le_iff.mp (Nat.le_refl _) g hg)

end ConditionGroup

/-! ## Queries -/

/-- The query of what compiles is everything, or boolean with something in a bucket. All its boolean
nodes are compiled groups: two buckets are empty, the minimum is one exactly if there are
alternatives, conditions are matches and ranges, and groups come last. There are no more levels of
nodes than the limit allows. -/
theorem compiled_form {options : CompileOptions} {q : Query} {r : SearchRequest}
    (h : (q.compile options).result = .ok r) :
    (r.query = .matchAll ∨ ∃ b, r.query = .boolean b ∧ b.isEmpty = false) ∧
    (∀ node, r.query.HasNode node → node.IsCompiled) ∧
    r.query.levels ≤ options.maxDepth.toNat := by
  have hdepth : q.depth ≤ options.maxDepth.toNat := Query.depth_le_of_compile h
  rw [Query.result_compile, outcome_eq_ok_iff] at h
  obtain ⟨-, rfl⟩ := h
  rw [Query.query_translation]
  cases htree : q.tree? with
  | none => exact ⟨Or.inl rfl, nofun, Nat.zero_le _⟩
  | some g =>
    obtain ⟨hconditions, hleft⟩ := Option.filter_eq_some_iff.mp htree
    have hempty : g.translation.isEmpty = false := by
      rw [g.isEmpty_translation]
      simpa using hleft
    have hlevels : (Clause.boolean g.translation).levels ≤ q.depth := by
      rw [Query.depth, hconditions]
      exact g.levels_translation_le
    exact ⟨Or.inr ⟨_, rfl, hempty⟩, fun node => ConditionGroup.isCompiled_of_hasNode,
      Nat.le_trans hlevels hdepth⟩

/-- Whoever is open and has a name or an age from a range that ends nowhere. -/
def Query.openByNameOrAge : Query where
  conditions := some
    { operator := .or
      conditions := [.eq "name" "", ⟨"id", "neq", []⟩, .between "age" "18" ""]
      groups := [{ conditions := [.eq "state" "open"] }] }

/-- The buckets of its request. -/
def Buckets.openByNameOrAge : BooleanClause where
  must := [.boolean { must := [.matchField "state" "open"] }]
  should := [.matchField "name" "", .range "age" { gte := some "18" }]
  minimum := some 1

/-- Alternatives beside a nested group, at the limit of two levels. -/
theorem compiled_form_openByNameOrAge :
    ((Query.openByNameOrAge.compile ⟨2, .skip⟩).result =
      .ok { query := .boolean .openByNameOrAge }) ∧
    Buckets.openByNameOrAge.IsCompiled ∧
    (Clause.boolean .openByNameOrAge).levels ≤ 2 := by
  have h : (Query.openByNameOrAge.compile ⟨2, .skip⟩).result =
      .ok { query := .boolean .openByNameOrAge } := rfl
  obtain ⟨-, hnodes, hlevels⟩ := compiled_form h
  exact ⟨h, hnodes _ (.self _), hlevels⟩

end SearchQuery
