import SearchQuery.Compile.Query

/-!
# What a compilation comes to

A compilation makes its checks in a fixed order: a group's depth, its direct conditions, then the
groups nested in it. It comes to the error of the first check that fails or, if none does, to a
clause that depends on the tree alone. `ConditionGroup.result_compileAt` says so for a group at any
depth, and whatever is proved about the result of a compilation is proved through it.

Main statement: `compile_first_fault`.
-/

namespace SearchQuery

/-! ## Values that a fault can stand in the way of -/

section
variable {ε α β : Type}

/-- A value, unless there is a fault. -/
def outcome (fault : Option ε) (a : α) : Except ε α :=
  match fault with
  | some e => .error e
  | none => .ok a

@[simp] theorem outcome_none (a : α) : outcome (none : Option ε) a = .ok a := rfl

@[simp] theorem outcome_some (e : ε) (a : α) : outcome (some e) a = .error e := rfl

theorem outcome_eq_ok_iff {fault : Option ε} {a b : α} :
    outcome fault a = .ok b ↔ fault = none ∧ a = b := by
  cases fault <;> simp

theorem outcome_eq_error_iff {fault : Option ε} {a : α} {e : ε} :
    outcome fault a = .error e ↔ fault = some e := by
  cases fault <;> simp

/-- In a sequence the first fault counts. -/
theorem outcome_bind {first second : Option ε} {a : α} {b : β} {f : α → Except ε β}
    (h : f a = outcome second b) : (outcome first a).bind f = outcome (first.or second) b := by
  cases first with
  | none => exact h
  | some e => rfl

theorem outcome_map (fault : Option ε) (a : α) (f : α → β) :
    ((outcome fault a).bind fun a => .ok (f a)) = outcome fault (f a) := by
  cases fault <;> rfl

end

/-! ## Conditions -/

namespace Condition

/-- The operator that a condition names, if there is a clause for it. -/
def operator? (c : Condition) : Option Operator :=
  (Operator.ofTag? c.operator).filter Operator.isSupported

/-- What is wrong with a condition under a policy. Whether its operator has a clause is asked
first; if it has none, the policy decides. -/
def fault? (policy : UnsupportedPolicy) (c : Condition) : Option CompileError :=
  match c.operator? with
  | none => if policy = .fail then some (.unsupported c.field c.operator) else none
  | some o =>
    if c.operands.length = o.arity then none
    else some (.operandCount c.field o c.operands.length)

/-- The clause of a condition that has one. -/
def clause? (c : Condition) : Option Clause := c.clause.toOption

end Condition

/-- The number of operands that a template takes. -/
def Template.arity : Template → Nat
  | one _ => 1
  | two _ => 2

theorem Operator.arity_of_template? {field : String} {o : Operator} {t : Template}
    (h : o.template? field = some t) : t.arity = o.arity := by
  cases o <;> cases h <;> rfl

namespace Condition

variable {c : Condition}

theorem clause?_eq_some_iff {clause : Clause} :
    c.clause? = some clause ↔ c.clause = .ok clause := by
  unfold clause?
  cases c.clause <;> simp [Except.toOption]

theorem clause?_of_error {e : CompileError} (h : c.clause = .error e) : c.clause? = none := by
  rw [clause?, h]
  rfl

theorem operator?_eq_some_iff {o : Operator} :
    c.operator? = some o ↔ Operator.ofTag? c.operator = some o ∧ o.isSupported = true := by
  simp [operator?, Option.filter_eq_some_iff]

/-- Without a clause for its operator a condition is refused, whatever its operands. -/
theorem clause_of_operator?_eq_none (h : c.operator? = none) :
    c.clause = .error (.unsupported c.field c.operator) := by
  unfold clause
  cases ho : Operator.ofTag? c.operator with
  | none => rfl
  | some o =>
    have hunsupported : o.isSupported = false := by
      simpa [operator?, ho] using h
    have htemplate : o.template? c.field = none := by
      rw [← Option.isNone_iff_eq_none, ← Option.not_isSome, Operator.isSome_template?,
        hunsupported]
      rfl
    simp only [htemplate]

/-- The operator of a condition has a template to fill in. -/
theorem exists_template {o : Operator} (h : c.operator? = some o) :
    ∃ t, o.template? c.field = some t := by
  rw [← Option.isSome_iff_exists, Operator.isSome_template?]
  exact (operator?_eq_some_iff.mp h).2

/-- The wrong number of operands is refused. -/
theorem clause_of_length_ne {o : Operator} (h : c.operator? = some o)
    (hlength : c.operands.length ≠ o.arity) :
    c.clause = .error (.operandCount c.field o c.operands.length) := by
  obtain ⟨t, ht⟩ := exists_template h
  rw [← Operator.arity_of_template? ht] at hlength
  unfold clause
  simp only [(operator?_eq_some_iff.mp h).1, ht]
  cases t with
  | one make =>
    match hs : c.operands with
    | [] => rfl
    | [v] => simp [hs, Template.arity] at hlength
    | _ :: _ :: _ => rfl
  | two make =>
    match hs : c.operands with
    | [] => rfl
    | [v] => rfl
    | [v, w] => simp [hs, Template.arity] at hlength
    | _ :: _ :: _ :: _ => rfl

/-- With the right number of operands there is a clause. -/
theorem exists_clause {o : Operator} (h : c.operator? = some o)
    (hlength : c.operands.length = o.arity) : ∃ clause, c.clause = .ok clause := by
  obtain ⟨t, ht⟩ := exists_template h
  rw [← Operator.arity_of_template? ht] at hlength
  unfold clause
  simp only [(operator?_eq_some_iff.mp h).1, ht]
  cases t with
  | one make =>
    obtain ⟨v, hv⟩ := List.length_eq_one_iff.mp hlength
    exact ⟨make v, by rw [hv]⟩
  | two make =>
    match hs : c.operands, hlength with
    | [v, w], _ => exact ⟨make v w, rfl⟩

/-- A clause comes from the template of the operator, filled in with the operands. -/
theorem template_of_clause {clause : Clause} (h : c.clause = .ok clause) :
    ∃ o, Operator.ofTag? c.operator = some o ∧
      ((∃ make v, o.template? c.field = some (.one make) ∧ c.operands = [v] ∧
          clause = make v) ∨
        ∃ make v w, o.template? c.field = some (.two make) ∧ c.operands = [v, w] ∧
          clause = make v w) := by
  unfold Condition.clause at h
  split at h
  · contradiction
  · next o ho =>
    refine ⟨o, ho, ?_⟩
    split at h
    · contradiction
    · next make v htemplate hoperands =>
      exact Or.inl ⟨make, v, htemplate, hoperands, (Except.ok.inj h).symm⟩
    · next make v w htemplate hoperands =>
      exact Or.inr ⟨make, v, w, htemplate, hoperands, (Except.ok.inj h).symm⟩
    · contradiction

/-- Everything that can become of a condition. -/
theorem clause_cases (c : Condition) :
    (c.operator? = none ∧ c.clause = .error (.unsupported c.field c.operator)) ∨
    (∃ o, c.operator? = some o ∧ c.operands.length ≠ o.arity ∧
      c.clause = .error (.operandCount c.field o c.operands.length)) ∨
    (∃ o clause, c.operator? = some o ∧ c.operands.length = o.arity ∧ c.clause = .ok clause) := by
  cases ho : c.operator? with
  | none => exact Or.inl ⟨rfl, clause_of_operator?_eq_none ho⟩
  | some o =>
    right
    by_cases hlength : c.operands.length = o.arity
    · obtain ⟨clause, hc⟩ := exists_clause ho hlength
      exact Or.inr ⟨o, clause, rfl, hlength, hc⟩
    · exact Or.inl ⟨o, rfl, hlength, clause_of_length_ne ho hlength⟩

end Condition

/-- The direct conditions come to the first fault among them, else to the clauses of those that
have one. -/
theorem result_compileConditions (policy : UnsupportedPolicy) (conditions : List Condition) :
    (compileConditions policy conditions).result =
      outcome (conditions.findSome? (Condition.fault? policy))
        (conditions.filterMap Condition.clause?) := by
  induction conditions with
  | nil => rfl
  | cons c rest ih =>
    rw [compileConditions, List.findSome?_cons]
    rcases c.clause_cases with ⟨ho, hc⟩ | ⟨o, ho, hlength, hc⟩ | ⟨o, clause, ho, hlength, hc⟩
    · -- an operator without a clause: only here does the policy matter
      rw [List.filterMap_cons_none (Condition.clause?_of_error hc), Condition.fault?, ho, hc]
      cases policy with
      | fail => rfl
      | skip => exact ih
    · rw [Condition.fault?, ho, hc]
      simp only [if_neg hlength]
      rfl
    · have hclause : c.clause? = some clause := Condition.clause?_eq_some_iff.mpr hc
      rw [List.filterMap_cons_some hclause, Condition.fault?, ho, hc]
      simp only [if_pos hlength, Run.result_bind, Run.result_pure, ih, outcome_map]

/-! ## Groups -/

/-- What is checked on the way through a condition tree. -/
inductive Check where
  /-- A group may stand at this depth. -/
  | enter (depth : Nat)
  | condition (c : Condition)

/-- The error of a check that fails. -/
def Check.fault? (options : CompileOptions) : Check → Option CompileError
  | enter depth =>
    if options.maxDepth.toNat < depth then some (.tooDeep options.maxDepth) else none
  | condition c => c.fault? options.onUnsupported

namespace ConditionGroup

/-- The checks of a group at a depth of nesting, in order. -/
def checks (depth : Nat) : ConditionGroup → List Check
  | ⟨_, conditions, groups⟩ =>
    .enter depth :: conditions.map .condition ++ checksAll (depth + 1) groups
where
  /-- The checks of several groups. -/
  checksAll (depth : Nat) : List ConditionGroup → List Check
    | [] => []
    | g :: rest => g.checks depth ++ checksAll depth rest

/-- The boolean clause of a group, made of the conditions that have a clause. -/
def translation : ConditionGroup → BooleanClause
  | ⟨operator, conditions, groups⟩ =>
    operator.join (conditions.filterMap Condition.clause?) (translationAll groups)
where
  /-- The boolean clauses of several groups. -/
  translationAll : List ConditionGroup → List BooleanClause
    | [] => []
    | g :: rest => g.translation :: translationAll rest

theorem translationAll_eq_map (groups : List ConditionGroup) :
    translation.translationAll groups = groups.map translation :=
  eq_map_of_cons rfl (fun _ _ => rfl) groups

theorem translation_mk (operator : GroupOperator) (conditions : List Condition)
    (groups : List ConditionGroup) :
    translation ⟨operator, conditions, groups⟩ =
      operator.join (conditions.filterMap Condition.clause?) (groups.map translation) := by
  rw [translation, translationAll_eq_map]

theorem checksAll_eq_flatMap (depth : Nat) (groups : List ConditionGroup) :
    checks.checksAll depth groups = groups.flatMap (checks depth) :=
  eq_flatMap_of_cons rfl (fun _ _ => rfl) groups

theorem checks_mk (depth : Nat) (operator : GroupOperator) (conditions : List Condition)
    (groups : List ConditionGroup) :
    checks depth ⟨operator, conditions, groups⟩ =
      .enter depth :: (conditions.map .condition ++ groups.flatMap (checks (depth + 1))) := by
  rw [checks, checksAll_eq_flatMap, List.cons_append]

/-- The checks of a group's direct conditions are those of the conditions themselves. -/
theorem findSome?_conditions (options : CompileOptions) (conditions : List Condition) :
    (conditions.map Check.condition).findSome? (Check.fault? options) =
      conditions.findSome? (Condition.fault? options.onUnsupported) := by
  rw [List.findSome?_map]
  rfl

private theorem result_compileNested (options : CompileOptions) (depth : Nat)
    (groups : List ConditionGroup)
    (ih : ∀ g ∈ groups, (g.compileAt options depth).result =
      outcome ((g.checks depth).findSome? (Check.fault? options)) g.translation) :
    (compileAt.compileNested options depth groups).result =
      outcome ((checks.checksAll depth groups).findSome? (Check.fault? options))
        (groups.map translation) := by
  induction groups with
  | nil => rfl
  | cons g rest ihrest =>
    have hrest := ihrest fun nested hnested => ih nested (List.mem_cons_of_mem g hnested)
    -- the event in front of a group changes no result
    rw [checks.checksAll, List.findSome?_append, compileAt.compileNested, Run.result_report_bind,
      Run.result_bind, ih g List.mem_cons_self]
    apply outcome_bind
    rw [Run.result_bind, hrest, List.map_cons]
    exact outcome_map ..

/-- A group comes to the first fault among its checks, else to its translation. -/
theorem result_compileAt (options : CompileOptions) (depth : Nat) (g : ConditionGroup) :
    (g.compileAt options depth).result =
      outcome ((g.checks depth).findSome? (Check.fault? options)) g.translation := by
  -- nested groups stand one deeper, so the depth has to vary
  induction g generalizing depth with
  | group operator conditions groups ih =>
    rw [compileAt, checks, List.cons_append, List.findSome?_cons, Check.fault?]
    by_cases hdeep : options.maxDepth.toNat < depth
    · -- the depth is checked before anything in the group is looked at
      rw [if_pos hdeep, if_pos hdeep]
      rfl
    · rw [if_neg hdeep, if_neg hdeep, List.findSome?_append, findSome?_conditions,
        translation_mk, Run.result_bind, result_compileConditions]
      apply outcome_bind
      rw [Run.result_bind, result_compileNested options _ groups fun g hg => ih g hg _]
      exact outcome_map ..

end ConditionGroup

/-! ## Queries -/

namespace Query

/-- The first fault of a query; without a condition tree there is none. -/
def fault? (options : CompileOptions) (q : Query) : Option CompileError :=
  q.conditions.bind fun g => (g.checks 1).findSome? (Check.fault? options)

/-- The request of a query, made of the conditions that have a clause. -/
def translation (q : Query) : SearchRequest :=
  RequestBuilder.build
    { q.builder with buckets := (q.conditions.map ConditionGroup.translation).getD {} }

/-- A query comes to the first fault of its condition tree, else to its translation. -/
theorem result_compile (options : CompileOptions) (q : Query) :
    (q.compile options).result = outcome (q.fault? options) q.translation := by
  unfold compile fault? translation
  cases q.conditions with
  | none => rfl
  | some g =>
    simp only [Run.result_bind, Run.result_report, Run.result_pure, Except.bind,
      ConditionGroup.compile, ConditionGroup.result_compileAt]
    exact outcome_map ..

end Query

/-! ## The first fault -/

/-- A group is compiled exactly if none of its checks fails, and otherwise the error is that of
the first check that does. A query fails exactly as its condition tree does, whatever else it
holds. -/
theorem compile_first_fault (options : CompileOptions) (g : ConditionGroup) :
    ((∃ buckets, (g.compile options).result = .ok buckets) ↔
      ∀ check ∈ g.checks 1, check.fault? options = none) ∧
    (∀ e, (g.compile options).result = .error e ↔
      ∃ before check after, g.checks 1 = before ++ check :: after ∧
        check.fault? options = some e ∧ ∀ earlier ∈ before, earlier.fault? options = none) ∧
    (∀ (q : Query) e, (q.compile options).result = .error e ↔
      ∃ tree, q.conditions = some tree ∧ (tree.compile options).result = .error e) := by
  refine ⟨?_, fun e => ?_, fun q e => ?_⟩
  · simp only [ConditionGroup.compile, ConditionGroup.result_compileAt, outcome_eq_ok_iff,
      List.findSome?_eq_none_iff, exists_and_left, exists_eq', and_true]
  · rw [ConditionGroup.compile, ConditionGroup.result_compileAt, outcome_eq_error_iff,
      List.findSome?_eq_some_iff]
  · rw [Query.result_compile, outcome_eq_error_iff, Query.fault?, Option.bind_eq_some_iff]
    simp only [ConditionGroup.compile, ConditionGroup.result_compileAt, outcome_eq_error_iff]

end SearchQuery
