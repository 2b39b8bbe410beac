import SearchQuery.Proofs.Outcome

/-!
# Dropping conditions beforehand

A tree can be rid of the conditions whose operator has no clause before it is compiled, or while.
Main statement: both come to the same clause or the same error.
-/

namespace SearchQuery

namespace Condition

/-- A condition that is refused for its operator. -/
def isUnsupported (c : Condition) : Bool :=
  match c.clause with
  | .error e => e.isUnsupported
  | .ok _ => false

theorem isUnsupported_eq_isNone (c : Condition) : c.isUnsupported = c.operator?.isNone := by
  unfold isUnsupported
  rcases c.clause_cases with ⟨ho, hc⟩ | ⟨o, ho, -, hc⟩ | ⟨o, clause, ho, -, hc⟩ <;>
    rw [ho, hc] <;> rfl

/-- A condition that is kept gets its clause, and one that is dropped has none. -/
theorem clause?_of_isUnsupported {c : Condition} (h : c.isUnsupported = true) :
    c.clause? = none := by
  rw [isUnsupported_eq_isNone, Option.isNone_iff_eq_none] at h
  exact clause?_of_error (clause_of_operator?_eq_none h)

/-- Skipping is failing, but for the conditions that are refused for their operator. -/
theorem fault?_skip (c : Condition) :
    c.fault? .skip = if c.isUnsupported then none else c.fault? .fail := by
  rw [isUnsupported_eq_isNone, fault?, fault?]
  cases c.operator? <;> rfl

end Condition

namespace ConditionGroup

/-- The tree without the conditions that are refused for their operator. -/
def prune : ConditionGroup → ConditionGroup
  | ⟨operator, conditions, groups⟩ =>
    ⟨operator, conditions.filter fun c => !c.isUnsupported, pruneAll groups⟩
where
  /-- Several groups without those conditions. -/
  pruneAll : List ConditionGroup → List ConditionGroup
    | [] => []
    | g :: rest => g.prune :: pruneAll rest

theorem pruneAll_eq_map (groups : List ConditionGroup) :
    prune.pruneAll groups = groups.map prune :=
  eq_map_of_cons rfl (fun _ _ => rfl) groups

/-- The clauses of the direct conditions are the same. -/
theorem filterMap_clause?_prune (conditions : List Condition) :
    (conditions.filter fun c => !c.isUnsupported).filterMap Condition.clause? =
      conditions.filterMap Condition.clause? := by
  induction conditions with
  | nil => rfl
  | cons c rest ih =>
    by_cases hc : c.isUnsupported = true
    · rw [List.filter_cons_of_neg (by simp [hc]), ih,
        List.filterMap_cons_none (Condition.clause?_of_isUnsupported hc)]
    · rw [List.filter_cons_of_pos (by simp [hc]), List.filterMap_cons, List.filterMap_cons, ih]

/-- The first fault of the direct conditions is the same. -/
theorem findSome?_fault?_prune (conditions : List Condition) :
    (conditions.filter fun c => !c.isUnsupported).findSome? (Condition.fault? .fail) =
      conditions.findSome? (Condition.fault? .skip) := by
  induction conditions with
  | nil => rfl
  | cons c rest ih =>
    have hfault := c.fault?_skip
    by_cases hc : c.isUnsupported = true
    · rw [if_pos hc] at hfault
      rw [List.filter_cons_of_neg (by simp [hc]), List.findSome?_cons, hfault, ih]
    · rw [if_neg hc] at hfault
      rw [List.filter_cons_of_pos (by simp [hc]), List.findSome?_cons, List.findSome?_cons,
        hfault, ih]

theorem translation_prune (g : ConditionGroup) : g.prune.translation = g.translation := by
  induction g with
  | group operator conditions groups ih =>
    rw [prune, pruneAll_eq_map, translation_mk, translation_mk, filterMap_clause?_prune,
      List.map_map]
    exact congrArg _ (List.map_congr_left ih)

/-- The first fault of a pruned tree, where nothing is skipped, is that of the tree with skipping:
pruning moves no check before another. -/
theorem findSome?_checks_prune (limit : UInt64) (depth : Nat) (g : ConditionGroup) :
    (g.prune.checks depth).findSome? (Check.fault? ⟨limit, .fail⟩) =
      (g.checks depth).findSome? (Check.fault? ⟨limit, .skip⟩) := by
  induction g generalizing depth with
  | group operator conditions groups ih =>
    -- a nested group may lose checks, so the two lists are not equal item by item
    have hnested : (checks.checksAll (depth + 1) (prune.pruneAll groups)).findSome?
          (Check.fault? ⟨limit, .fail⟩) =
        (checks.checksAll (depth + 1) groups).findSome? (Check.fault? ⟨limit, .skip⟩) := by
      induction groups with
      | nil => rfl
      | cons g rest ihrest =>
        rw [prune.pruneAll, checks.checksAll, checks.checksAll, List.findSome?_append,
          List.findSome?_append, ih g List.mem_cons_self,
          ihrest fun nested hnested => ih nested (List.mem_cons_of_mem g hnested)]
    rw [prune, checks, checks, List.cons_append, List.cons_append, List.findSome?_cons,
      List.findSome?_cons, List.findSome?_append, List.findSome?_append, findSome?_conditions,
      findSome?_conditions, findSome?_fault?_prune, hnested]
    rfl

end ConditionGroup

/-- The query with its condition tree pruned. -/
def Query.prune (q : Query) : Query :=
  { q with conditions := q.conditions.map ConditionGroup.prune }

/-- To skip what is unsupported is to prune it and to fail on everything else: a group, and a query
as a whole, come to the same result or the same error, at every limit of depth. -/
theorem compile_skip_eq_compile_prune (limit : UInt64) (g : ConditionGroup) (q : Query) :
    (g.compile ⟨limit, .skip⟩).result = (g.prune.compile ⟨limit, .fail⟩).result ∧
    (q.compile ⟨limit, .skip⟩).result = (q.prune.compile ⟨limit, .fail⟩).result := by
  constructor
  · rw [ConditionGroup.compile, ConditionGroup.compile, ConditionGroup.result_compileAt,
      ConditionGroup.result_compileAt, ConditionGroup.findSome?_checks_prune,
      ConditionGroup.translation_prune]
  · rw [Query.result_compile, Query.result_compile]
    unfold Query.fault? Query.translation Query.prune
    cases q.conditions with
    | none => rfl
    | some tree =>
      simp only [Option.map_some, Option.bind_some, ConditionGroup.findSome?_checks_prune,
        ConditionGroup.translation_prune]
      rfl

end SearchQuery
