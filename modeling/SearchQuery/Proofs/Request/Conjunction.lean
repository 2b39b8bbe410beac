import SearchQuery.Proofs.Outcome
import SearchQuery.Proofs.Request.Building

/-!
# Three ways to a conjunction

Conditions all of which have to match can be compiled as a group, or their clauses can be collected
one by one, or given to the builder as one boolean clause. All three come to the same request. Each
looks in a place of its own whether there is any clause, and without one each of them matches
everything.

Main statement: `Query.compile_conjunction`.
-/

namespace SearchQuery

/-! ## Clauses collected and clauses given -/

theorem Collector.isEmpty_conjunction (c : Collector) : c.conjunction.isEmpty = c.isEmpty := by
  simp [Collector.conjunction, Collector.isEmpty, Buckets.isEmpty]

theorem Collector.foldl_add (c : Collector) (clauses : List Clause) :
    clauses.foldl add c = ⟨c.clauses ++ clauses⟩ := by
  induction clauses generalizing c with
  | nil => rw [List.append_nil, List.foldl_nil]
  | cons clause rest ih => rw [List.foldl_cons, ih, add, List.append_assoc, List.singleton_append]

namespace RequestBuilder

theorem run_collect (b : RequestBuilder) (clauses : List Clause) :
    run b (clauses.map .collect) =
      { b with collector := clauses.foldl Collector.add b.collector } := by
  induction clauses generalizing b with
  | nil => rfl
  | cons clause rest ih => exact ih _

/-- A builder that holds no clause yet makes the same of clauses collected and of their conjunction.
If there are none it goes on to the direct match either way. -/
theorem build_collector {b : RequestBuilder} (hbuckets : b.buckets.isEmpty = true)
    (hcollector : b.collector.isEmpty = true) (c : Collector) :
    build { b with collector := c } = build { b with buckets := c.conjunction } := by
  have hquery : query { b with collector := c } = query { b with buckets := c.conjunction } := by
    simp only [query, hbuckets, hcollector, c.isEmpty_conjunction]
    cases c.isEmpty <;> rfl
  exact congrArg (fun asked => { build b with query := asked }) hquery

end RequestBuilder

/-! ## Conditions that all have a clause -/

namespace Condition

theorem fault?_of_clause {c : Condition} {clause : Clause} (h : c.clause = .ok clause)
    (policy : UnsupportedPolicy) : c.fault? policy = none := by
  rcases c.clause_cases with ⟨-, hc⟩ | ⟨o, -, -, hc⟩ | ⟨o, clause, ho, hlength, -⟩
  · rw [h] at hc
    contradiction
  · rw [h] at hc
    contradiction
  · simp only [fault?, ho, if_pos hlength]

variable {conditions : List Condition} {clauses : List Clause}

theorem filterMap_clause?_of_map (h : conditions.map clause = clauses.map .ok) :
    conditions.filterMap clause? = clauses := by
  calc conditions.filterMap clause?
      = (conditions.map clause).filterMap Except.toOption := (List.filterMap_map ..).symm
    _ = (clauses.map .ok).filterMap Except.toOption := by rw [h]
    _ = clauses.filterMap some := List.filterMap_map ..
    _ = clauses := List.filterMap_some

theorem findSome?_fault?_of_map (h : conditions.map clause = clauses.map .ok)
    (policy : UnsupportedPolicy) : conditions.findSome? (fault? policy) = none := by
  rw [List.findSome?_eq_none_iff]
  intro c hc
  have hclause : c.clause ∈ clauses.map .ok := h ▸ List.mem_map_of_mem hc
  obtain ⟨clause, -, hok⟩ := List.mem_map.mp hclause
  exact fault?_of_clause hok.symm policy

end Condition

namespace Query

open RequestBuilder (AgreeBySetting ofSteps)

/-- What a query sets in a builder beside its conditions. A size that is not positive is left
unset. -/
def settingSteps (q : Query) : List RequestBuilder.Step :=
  (if 0 < q.size then [.size q.size] else []) ++
    [.start q.offset, .source q.columns, .addSorts q.sortBy]

theorem ofSteps_settingSteps (q : Query) : ofSteps q.settingSteps = q.builder := by
  unfold settingSteps builder
  split <;> rfl

section
variable {q : Query} {conditions : List Condition} {clauses : List Clause}
  (hq : q.conditions = some ⟨.and, conditions, []⟩)
  (hclauses : conditions.map Condition.clause = clauses.map .ok)
include hq hclauses

theorem fault?_conjunction {options : CompileOptions} (hdepth : 1 ≤ options.maxDepth) :
    q.fault? options = none := by
  have henter : (Check.enter 1).fault? options = none :=
    if_neg (Nat.not_lt.mpr (UInt64.le_iff_toNat_le.mp hdepth))
  rw [fault?, hq, Option.bind_some, ConditionGroup.checks_mk, List.flatMap_nil, List.append_nil,
    List.findSome?_cons, henter, ConditionGroup.findSome?_conditions,
    Condition.findSome?_fault?_of_map hclauses]

theorem translation_conjunction :
    q.translation = RequestBuilder.build { q.builder with buckets := { must := clauses } } := by
  rw [translation, hq, Option.map_some, Option.getD_some, ConditionGroup.translation_mk,
    Condition.filterMap_clause?_of_map hclauses, List.map_nil, GroupOperator.join, List.map_nil,
    List.append_nil]

/-- Conditions that all have a clause and all have to match compile to the request that is built of
the same settings with their clauses collected in order, and to the one with the conjunction of the
collector as the boolean clause, whatever the order of the steps. If there are none, all of them
match everything. -/
theorem compile_conjunction {options : CompileOptions} (hdepth : 1 ≤ options.maxDepth) :
    ∃ request, (q.compile options).result = .ok request ∧
      (∀ steps, AgreeBySetting steps (q.settingSteps ++ clauses.map .collect) →
        (ofSteps steps).build = request) ∧
      (∀ steps, AgreeBySetting steps
          (q.settingSteps ++ [.buckets (clauses.foldl Collector.add {}).conjunction]) →
        (ofSteps steps).build = request) ∧
      request.query = if clauses.isEmpty then .matchAll else .boolean { must := clauses } := by
  have hconjunction : (clauses.foldl Collector.add {}).conjunction = { must := clauses } := by
    rw [Collector.foldl_add]
    rfl
  refine ⟨q.translation, ?_, fun steps hsteps => ?_, fun steps hsteps => ?_, ?_⟩
  · rw [result_compile, fault?_conjunction hq hclauses hdepth, outcome_none]
  · calc (ofSteps steps).build
        = RequestBuilder.build
            { q.builder with collector := clauses.foldl Collector.add q.builder.collector } := by
          rw [RequestBuilder.ofSteps_congr hsteps, RequestBuilder.ofSteps_append,
            ofSteps_settingSteps, RequestBuilder.run_collect]
      _ = RequestBuilder.build
            { q.builder with buckets := (clauses.foldl Collector.add {}).conjunction } :=
          RequestBuilder.build_collector rfl rfl _
      _ = q.translation := by rw [hconjunction, translation_conjunction hq hclauses]
  · rw [RequestBuilder.ofSteps_congr hsteps, RequestBuilder.ofSteps_append, ofSteps_settingSteps,
      hconjunction, translation_conjunction hq hclauses]
    rfl
  · rw [translation_conjunction hq hclauses]
    cases clauses <;> rfl

end

/-- Two conditions; only names are wanted, and the first twenty are left out. -/
def namesOfAge : Query where
  offset := 20
  columns := ["name"]
  conditions := some
    { conditions := [⟨"age", "gte", ["18"]⟩, ⟨"name", "eq", ["ada"]⟩] }

/-- The clauses of both. -/
def namesOfAgeClauses : List Clause :=
  [.range "age" { gte := some "18" }, .matchField "name" "ada"]

/-- The builder may be told of the settings between the clauses. -/
def namesOfAgeSteps : List RequestBuilder.Step :=
  [.collect (.range "age" { gte := some "18" }), .addSorts [], .source ["name"],
    .collect (.matchField "name" "ada"), .start 20]

/-- Two conditions are compiled as they are built. -/
theorem compile_conjunction_namesOfAge :
    (1 : UInt64) ≤ CompileOptions.maxDepth {} ∧
    namesOfAge.conditions = some ⟨.and, [⟨"age", "gte", ["18"]⟩, ⟨"name", "eq", ["ada"]⟩], []⟩ ∧
    [⟨"age", "gte", ["18"]⟩, ⟨"name", "eq", ["ada"]⟩].map Condition.clause =
      namesOfAgeClauses.map .ok ∧
    AgreeBySetting namesOfAgeSteps
      (namesOfAge.settingSteps ++ namesOfAgeClauses.map .collect) ∧
    ∃ request, (namesOfAge.compile {}).result = .ok request ∧
      (ofSteps namesOfAgeSteps).build = request ∧
      request.query = .boolean { must := namesOfAgeClauses } := by
  have hdepth : (1 : UInt64) ≤ CompileOptions.maxDepth {} := by decide
  have hq : namesOfAge.conditions =
      some ⟨.and, [⟨"age", "gte", ["18"]⟩, ⟨"name", "eq", ["ada"]⟩], []⟩ := rfl
  have hclauses : [⟨"age", "gte", ["18"]⟩, ⟨"name", "eq", ["ada"]⟩].map Condition.clause =
      namesOfAgeClauses.map .ok := rfl
  have hagree : AgreeBySetting namesOfAgeSteps
      (namesOfAge.settingSteps ++ namesOfAgeClauses.map .collect) := by
    intro k
    cases k <;> rfl
  obtain ⟨request, hresult, hcollected, -, hquery⟩ := compile_conjunction hq hclauses hdepth
  exact ⟨hdepth, hq, hclauses, hagree, request, hresult, hcollected _ hagree, hquery⟩

end Query

end SearchQuery
