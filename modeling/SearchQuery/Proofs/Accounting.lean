import Mathlib.Data.List.Basic
import Mathlib.Data.List.TakeWhile
import SearchQuery.Proofs.Meaning
import SearchQuery.Proofs.ReadingBack

/-!
# Where the conditions go

A compilation walks through a condition tree: it checks a group's depth, turns to the conditions in
the group, then to the groups nested in it, each of which it announces before its depth is checked.
What it reports are the events of these steps up to the first that fails. If none fails, every
condition is met once on the way and leaves its clause in the result or a warning in the log.

Main statement: `every_condition_accounted_for`.
-/

namespace SearchQuery

/-! ## Steps and what they report -/

/-- What the log says of a condition that is dropped. -/
def Condition.warning (c : Condition) : Event := .skipped c.field c.operator

/-- What is done on the way through a condition tree. -/
inductive Step where
  /-- A nested group is about to be compiled at this depth. -/
  | announce (depth : Nat) (operator : GroupOperator)
  | check (c : Check)

namespace Step

/-- The check in a step. -/
def check? : Step → Option Check
  | announce .. => none
  | check c => some c

/-- The error of a step that fails. -/
def fault? (options : CompileOptions) (s : Step) : Option CompileError :=
  s.check?.bind (Check.fault? options)

/-- The event of a step that does not fail. -/
def event? (options : CompileOptions) : Step → Option Event
  | announce depth operator => some (.entered depth operator)
  | check (.enter _) => none
  | check (.condition c) => if c.isSkipped options.onUnsupported then some c.warning else none

/-- The events of several steps, up to the first that fails. -/
def log (options : CompileOptions) (steps : List Step) : List Event :=
  (steps.takeWhile fun s => (s.fault? options).isNone).filterMap (event? options)

variable {options : CompileOptions} {s : Step} {steps first second : List Step}

/-- Nothing but checks can fail. -/
theorem findSome?_fault? (options : CompileOptions) (steps : List Step) :
    steps.findSome? (fault? options) =
      (steps.filterMap check?).findSome? (Check.fault? options) := by
  rw [← List.head?_filterMap, ← List.head?_filterMap, List.filterMap_filterMap]
  rfl

theorem log_cons_of_fault {e : CompileError} (h : s.fault? options = some e) :
    log options (s :: steps) = [] := by
  rw [log, List.takeWhile_cons, h]
  rfl

theorem log_cons (h : s.fault? options = none) :
    log options (s :: steps) = (s.event? options).toList ++ log options steps := by
  rw [log, List.takeWhile_cons_of_pos (by rw [h]; rfl), List.filterMap_cons, log]
  cases s.event? options <;> rfl

/-- Steps report only if none of those before them fails. -/
theorem log_append : log options (first ++ second) =
    log options first ++
      if (first.findSome? (fault? options)).isNone then log options second else [] := by
  induction first with
  | nil => rfl
  | cons s rest ih =>
    rw [List.cons_append, List.findSome?_cons]
    cases hfault : s.fault? options with
    | some e =>
      rw [log_cons_of_fault hfault, log_cons_of_fault hfault]
      rfl
    | none => rw [log_cons hfault, log_cons hfault, ih, List.append_assoc]

theorem log_of_findSome?_eq_none (h : steps.findSome? (fault? options) = none) :
    log options steps = steps.filterMap (event? options) := by
  rw [log, List.takeWhile_eq_self_iff.mpr]
  intro s hs
  rw [List.findSome?_eq_none_iff.mp h s hs]
  rfl

/-- Only steps are reported. -/
theorem exists_of_mem_log {e : Event} (h : e ∈ log options steps) :
    ∃ s ∈ steps, s.event? options = some e := by
  obtain ⟨s, hs, hevent⟩ := List.mem_filterMap.mp h
  exact ⟨s, (List.takeWhile_sublist _).subset hs, hevent⟩

/-- Runs in sequence report the steps of both. -/
theorem events_bind {α β : Type} {r : Run CompileError α} {f : α → Run CompileError β} {a : α}
    (hresult : r.result = outcome (first.findSome? (fault? options)) a)
    (hevents : r.events = log options first) (hrest : (f a).events = log options second) :
    (r >>= f).events = log options (first ++ second) := by
  rw [Run.events_bind, hresult, hevents, log_append]
  cases first.findSome? (fault? options) with
  | some e => rfl
  | none => exact congrArg _ hrest

end Step

/-! ## The log of a group -/

/-- The steps through the direct conditions of a group. -/
def conditionSteps (conditions : List Condition) : List Step :=
  (conditions.map Check.condition).map .check

namespace ConditionGroup

/-- The steps through a group at a depth of nesting: its own check, its conditions, then each group
nested in it, which is announced first. -/
def steps (depth : Nat) : ConditionGroup → List Step
  | ⟨_, conditions, groups⟩ =>
    .check (.enter depth) :: conditionSteps conditions ++ stepsAll (depth + 1) groups
where
  /-- The steps through several nested groups. -/
  stepsAll (depth : Nat) : List ConditionGroup → List Step
    | [] => []
    | g :: rest => .announce depth g.operator :: g.steps depth ++ stepsAll depth rest

end ConditionGroup

/-- Conditions are dropped one by one, up to the first fault. -/
theorem events_compileConditions (options : CompileOptions) (conditions : List Condition) :
    (compileConditions options.onUnsupported conditions).events =
      Step.log options (conditionSteps conditions) := by
  obtain ⟨limit, policy⟩ := options
  induction conditions with
  | nil => rfl
  | cons c rest ih =>
    have hfault : (Step.check (.condition c)).fault? ⟨limit, policy⟩ = c.fault? policy := rfl
    rw [Condition.fault?] at hfault
    rw [compileConditions, conditionSteps, List.map_cons, List.map_cons]
    rcases c.clause_cases with ⟨ho, hc⟩ | ⟨o, ho, hlength, hc⟩ | ⟨o, clause, ho, hlength, hc⟩
    · -- here the policy decides between a fault and a warning
      rw [ho] at hfault
      rw [hc]
      cases policy with
      | fail => exact (Step.log_cons_of_fault hfault).symm
      | skip =>
        rw [Step.log_cons hfault, Step.event?, Condition.isSkipped, ho]
        exact congrArg (List.cons c.warning) ih
    · simp only [ho, if_neg hlength] at hfault
      rw [hc]
      exact (Step.log_cons_of_fault hfault).symm
    · simp only [ho, if_pos hlength] at hfault
      have hkept : (Step.check (.condition c)).event? ⟨limit, policy⟩ = none := by
        simp [Step.event?, Condition.isSkipped, ho]
      rw [hc, Step.log_cons hfault, hkept]
      exact (Run.events_bind_pure ..).trans ih

theorem filterMap_check?_conditionSteps (conditions : List Condition) :
    (conditionSteps conditions).filterMap Step.check? = conditions.map .condition := by
  rw [conditionSteps, List.filterMap_map]
  exact List.filterMap_some

namespace ConditionGroup

theorem stepsAll_eq_flatMap (depth : Nat) (groups : List ConditionGroup) :
    steps.stepsAll depth groups =
      groups.flatMap fun g => .announce depth g.operator :: g.steps depth :=
  eq_flatMap_of_cons rfl (fun _ _ => rfl) groups

theorem filterMap_check?_steps (depth : Nat) (g : ConditionGroup) :
    (g.steps depth).filterMap Step.check? = g.checks depth := by
  induction g generalizing depth with
  | group operator conditions groups ih =>
    have hnested : (steps.stepsAll (depth + 1) groups).filterMap Step.check? =
        groups.flatMap (checks (depth + 1)) := by
      rw [stepsAll_eq_flatMap, List.filterMap_flatMap]
      exact List.flatMap_congr fun g hg => ih g hg _
    rw [steps, List.cons_append, List.filterMap_cons_some (f := Step.check?) rfl,
      List.filterMap_append, filterMap_check?_conditionSteps, hnested, checks_mk]

/-- Announcing a group checks nothing. -/
theorem findSome?_steps (options : CompileOptions) (depth : Nat) (g : ConditionGroup) :
    (g.steps depth).findSome? (Step.fault? options) =
      (g.checks depth).findSome? (Check.fault? options) := by
  rw [Step.findSome?_fault?, filterMap_check?_steps]

private theorem events_compileNested (options : CompileOptions) (depth : Nat)
    (groups : List ConditionGroup)
    (ih : ∀ g ∈ groups, (g.compileAt options depth).events = Step.log options (g.steps depth)) :
    (compileAt.compileNested options depth groups).events =
      Step.log options (steps.stepsAll depth groups) := by
  induction groups with
  | nil => rfl
  | cons g rest ihrest =>
    have hrest := ihrest fun nested hnested => ih nested (List.mem_cons_of_mem g hnested)
    have hresult := g.result_compileAt options depth
    rw [← findSome?_steps] at hresult
    -- the group is announced, even if it then turns out to stand too deep
    rw [steps.stepsAll, List.cons_append, Step.log_cons rfl, compileAt.compileNested]
    apply congrArg (List.cons (Event.entered depth g.operator))
    apply Step.events_bind hresult (ih g List.mem_cons_self)
    exact (Run.events_bind_pure ..).trans hrest

/-- A group reports the events of its steps up to the first fault. -/
theorem events_compileAt (options : CompileOptions) (depth : Nat) (g : ConditionGroup) :
    (g.compileAt options depth).events = Step.log options (g.steps depth) := by
  induction g generalizing depth with
  | group operator conditions groups ih =>
    have henter : (Step.check (.enter depth)).fault? options =
        if options.maxDepth.toNat < depth then some (.tooDeep options.maxDepth) else none := rfl
    rw [compileAt, steps, List.cons_append]
    by_cases hdeep : options.maxDepth.toNat < depth
    · rw [if_pos hdeep] at henter ⊢
      exact (Step.log_cons_of_fault henter).symm
    · have hresult : (compileConditions options.onUnsupported conditions).result =
          outcome ((conditionSteps conditions).findSome? (Step.fault? options))
            (conditions.filterMap Condition.clause?) := by
        rw [result_compileConditions, Step.findSome?_fault?, filterMap_check?_conditionSteps,
          findSome?_conditions]
      rw [if_neg hdeep] at henter ⊢
      rw [Step.log_cons henter]
      apply Step.events_bind hresult (events_compileConditions options conditions)
      rw [Run.events_bind_pure]
      exact events_compileNested options _ groups fun g hg => ih g hg _

end ConditionGroup

/-! ## The conditions of a tree -/

/-- The condition in a check. -/
def Check.condition? : Check → Option Condition
  | enter _ => none
  | condition c => some c

namespace ConditionGroup

/-- The conditions of a group and of every group below it, in the order of the walk. -/
def allConditions : ConditionGroup → List Condition
  | ⟨_, conditions, groups⟩ => conditions ++ conditionsOfAll groups
where
  /-- The conditions of several groups. -/
  conditionsOfAll : List ConditionGroup → List Condition
    | [] => []
    | g :: rest => g.allConditions ++ conditionsOfAll rest

theorem allConditions_mk (operator : GroupOperator) (conditions : List Condition)
    (groups : List ConditionGroup) :
    allConditions ⟨operator, conditions, groups⟩ =
      conditions ++ groups.flatMap allConditions := by
  have hall : allConditions.conditionsOfAll groups = groups.flatMap allConditions :=
    eq_flatMap_of_cons rfl (fun _ _ => rfl) groups
  rw [allConditions, hall]

theorem length_allConditions (g : ConditionGroup) :
    g.allConditions.length = g.conditionCount := by
  induction g with
  | group operator conditions groups ih =>
    have hnested : (groups.flatMap allConditions).length = conditionCount.countAll groups := by
      induction groups with
      | nil => rfl
      | cons g rest ihrest =>
        rw [List.flatMap_cons, List.length_append, conditionCount.countAll,
          ih g List.mem_cons_self,
          ihrest fun nested hnested => ih nested (List.mem_cons_of_mem g hnested)]
    rw [allConditions_mk, List.length_append, conditionCount, hnested]

/-- Every condition is checked once, in order. -/
theorem filterMap_condition?_checks (depth : Nat) (g : ConditionGroup) :
    (g.checks depth).filterMap Check.condition? = g.allConditions := by
  -- nested groups are checked one deeper, so the depth has to vary
  induction g generalizing depth with
  | group operator conditions groups ih =>
    have hdirect : (conditions.map Check.condition).filterMap Check.condition? = conditions := by
      rw [List.filterMap_map]
      exact List.filterMap_some
    rw [checks_mk, List.filterMap_cons_none rfl, List.filterMap_append, hdirect,
      List.filterMap_flatMap, allConditions_mk]
    exact congrArg _ (List.flatMap_congr fun g hg => ih g hg _)

/-- In a tree without faults no condition has one. -/
theorem fault?_of_mem_allConditions {options : CompileOptions} {depth : Nat} {g : ConditionGroup}
    (h : (g.checks depth).findSome? (Check.fault? options) = none) :
    ∀ c ∈ g.allConditions, c.fault? options.onUnsupported = none := by
  intro c hc
  rw [← filterMap_condition?_checks depth, List.mem_filterMap] at hc
  obtain ⟨check, hcheck, hcondition⟩ := hc
  have hfault := List.findSome?_eq_none_iff.mp h check hcheck
  cases check with
  | enter => cases hcondition
  | condition => cases hcondition; exact hfault

end ConditionGroup

/-! ## Where they go -/

theorem map_filter_eq_filterMap {α β : Type} (p : α → Bool) (f : α → β) (items : List α) :
    (items.filter p).map f = items.filterMap fun a => if p a then some (f a) else none := by
  rw [← List.filterMap_eq_map, List.filterMap_filter]
  rfl

/-- The warnings in the log of a run. -/
def Run.warnings {ε α : Type} (r : Run ε α) : List Event :=
  r.events.filter fun e => e.level = .warn

/-- Only conditions are warned about, and only those that are dropped. -/
theorem Step.filter_event? (options : CompileOptions) (s : Step) :
    (s.event? options).filter (fun e => e.level = .warn) =
      (s.check?.bind Check.condition?).bind fun c =>
        if c.isSkipped options.onUnsupported then some c.warning else none := by
  match s with
  | announce .. => rfl
  | check (.enter _) => rfl
  | check (.condition c) =>
    show (if c.isSkipped _ then some c.warning else none : Option Event).filter _ =
      if c.isSkipped _ then some c.warning else none
    split <;> rfl

/-- If nothing fails, every condition that is dropped is warned about. -/
theorem ConditionGroup.warnings_compile {options : CompileOptions} {g : ConditionGroup}
    (h : (g.checks 1).findSome? (Check.fault? options) = none) :
    (g.compile options).warnings =
      (g.allConditions.filter fun c => c.isSkipped options.onUnsupported).map
        Condition.warning := by
  have hlog : (g.compile options).events = (g.steps 1).filterMap (Step.event? options) := by
    rw [compile, events_compileAt, Step.log_of_findSome?_eq_none]
    rw [findSome?_steps, h]
  rw [Run.warnings, hlog, List.filter_filterMap]
  simp only [Step.filter_event?]
  rw [← List.filterMap_filterMap, ← List.filterMap_filterMap, filterMap_check?_steps,
    filterMap_condition?_checks, map_filter_eq_filterMap]

/-- A condition without a fault has a clause exactly if it is not dropped. -/
theorem Condition.clause?_eq_ite {policy : UnsupportedPolicy} {c : Condition}
    (h : c.fault? policy = none) :
    c.clause?.map Except.ok = if !c.isSkipped policy then some c.clause else none := by
  rcases c.clause_cases with ⟨ho, hc⟩ | ⟨o, ho, hlength, hc⟩ | ⟨o, clause, ho, -, hc⟩
  · cases policy with
    | fail => simp [fault?, ho] at h
    | skip => simp [clause?_of_error hc, isSkipped, ho]
  · simp [fault?, ho, hlength] at h
  · simp [clause?_eq_some_iff.mpr hc, isSkipped, ho, hc]

/-- The clauses inside a boolean one that are not boolean: at every node, those in its own buckets
come before those further down. -/
def Clause.leavesBelow : Clause → List Clause
  | .boolean ⟨must, should, mustNot, filter, _⟩ =>
    (must ++ should ++ mustNot ++ filter).filter isLeaf ++
      (belowAll must ++ belowAll should ++ belowAll mustNot ++ belowAll filter)
  | _ => []
where
  /-- The clauses inside several boolean ones. -/
  belowAll : List Clause → List Clause
    | [] => []
    | c :: rest => c.leavesBelow ++ belowAll rest

namespace Clause

theorem belowAll_eq_flatMap (clauses : List Clause) :
    leavesBelow.belowAll clauses = clauses.flatMap leavesBelow :=
  eq_flatMap_of_cons rfl (fun _ _ => rfl) clauses

theorem leavesBelow_boolean (b : BooleanClause) :
    (boolean b).leavesBelow = b.clauses.filter isLeaf ++ b.clauses.flatMap leavesBelow := by
  obtain ⟨must, should, mustNot, filter, minimum⟩ := b
  simp only [leavesBelow, belowAll_eq_flatMap, Buckets.clauses, List.flatMap_append]

theorem leavesBelow_of_isLeaf {c : Clause} (h : c.isLeaf = true) : c.leavesBelow = [] := by
  cases c with
  | boolean => cases h
  | _ => rfl

end Clause

/-- Whatever the operator, direct clauses come before nested groups. -/
theorem GroupOperator.leavesBelow_join (o : GroupOperator) {direct : List Clause}
    (h : ∀ c ∈ direct, c.isLeaf = true) (nested : List BooleanClause) :
    (Clause.boolean (o.join direct nested)).leavesBelow =
      direct ++ (nested.map Clause.boolean).flatMap Clause.leavesBelow := by
  have hdirect : direct.flatMap Clause.leavesBelow = [] :=
    List.flatMap_eq_nil_iff.mpr fun c hc => Clause.leavesBelow_of_isLeaf (h c hc)
  have hself : direct.filter Clause.isLeaf = direct := List.filter_eq_self.mpr h
  rw [Clause.leavesBelow_boolean]
  -- `or` puts the nested groups in front, but the leaves are taken from all buckets first
  cases o with
  | and => simp [join, Buckets.clauses, hself, hdirect, filter_isLeaf_nested]
  | or => simp [join, Buckets.clauses, hself, hdirect, filter_isLeaf_nested]

theorem ConditionGroup.leavesBelow_translation (g : ConditionGroup) :
    (Clause.boolean g.translation).leavesBelow = g.allConditions.filterMap Condition.clause? := by
  induction g with
  | group operator conditions groups ih =>
    rw [translation_mk, operator.leavesBelow_join Condition.isLeaf_of_mem_filterMap,
      allConditions_mk, List.filterMap_append, List.filterMap_flatMap, List.map_map,
      List.flatMap_map]
    exact congrArg _ (List.flatMap_congr ih)

/-! ## How important it is -/

/-- What a compilation reports, and at which level. -/
inductive Event.ReportedAt : Event → Level → Prop
  | skipped (field tag : String) : ReportedAt (.skipped field tag) .warn
  | entered (depth : Nat) (operator : GroupOperator) : ReportedAt (.entered depth operator) .trace
  | compiled (conditions sortKeys : Nat) (kind : String) :
      ReportedAt (.compiled conditions sortKeys kind) .debug

theorem Step.reportedAt_of_event? {options : CompileOptions} {s : Step} {e : Event}
    (h : s.event? options = some e) : e.ReportedAt e.level := by
  match s with
  | announce depth operator =>
    obtain rfl := Option.some.inj h
    exact .entered depth operator
  | check (.enter _) => cases h
  | check (.condition c) =>
    rw [event?] at h
    split at h
    · obtain rfl := Option.some.inj h
      exact .skipped c.field c.operator
    · cases h

/-- A group only warns of conditions and traces the groups below it. -/
theorem ConditionGroup.reportedAt_of_mem_events {options : CompileOptions} {g : ConditionGroup}
    {e : Event} (h : e ∈ (g.compile options).events) : e.ReportedAt e.level := by
  rw [compile, events_compileAt] at h
  obtain ⟨s, -, hevent⟩ := Step.exists_of_mem_log h
  exact Step.reportedAt_of_event? hevent

/-! ## Queries -/

/-- A query reports what its condition tree does and, if it compiles, one event more. -/
theorem Query.events_compile (options : CompileOptions) (q : Query) :
    (q.compile options).events =
      ((q.conditions.map fun tree => (tree.compile options).events).getD []) ++
        match (q.compile options).result with
        | .ok r =>
          [.compiled ((q.conditions.map ConditionGroup.conditionCount).getD 0) r.sort.length
            r.query.kind]
        | .error _ => [] := by
  unfold compile
  cases q.conditions with
  | none => rfl
  | some tree =>
    rw [Run.events_bind, Run.result_bind]
    cases (tree.compile options).result <;> rfl

theorem Query.reportedAt_of_mem_events {options : CompileOptions} {q : Query} {e : Event}
    (h : e ∈ (q.compile options).events) : e.ReportedAt e.level := by
  rw [events_compile, List.mem_append] at h
  rcases h with htree | hend
  · cases hq : q.conditions with
    | none =>
      rw [hq] at htree
      cases htree
    | some tree =>
      rw [hq] at htree
      exact ConditionGroup.reportedAt_of_mem_events htree
  · cases hresult : (q.compile options).result with
    | error =>
      rw [hresult] at hend
      cases hend
    | ok r =>
      rw [hresult] at hend
      obtain rfl := List.mem_singleton.mp hend
      exact .compiled ..

/-- The log of a group tells the steps through it up to the first that fails, which is where its
compilation does. Of a group that compiles every condition is either warned about or, in the same
order, a leaf of the clause. A query adds the number of its conditions to the log if it
compiles. Conditions that are dropped are warnings in the log, groups belong to the trace, and what
a query adds is for debugging. -/
theorem every_condition_accounted_for (options : CompileOptions) (g : ConditionGroup)
    (q : Query) :
    (g.compile options).events = Step.log options (g.steps 1) ∧
    (∀ e, (g.compile options).result = .error e ↔
      (g.steps 1).findSome? (Step.fault? options) = some e) ∧
    (∀ b, (g.compile options).result = .ok b →
      (g.compile options).warnings =
        (g.allConditions.filter fun c => c.isSkipped options.onUnsupported).map
          Condition.warning ∧
      (g.allConditions.filter fun c => !c.isSkipped options.onUnsupported).map
          Condition.clause =
        (Clause.boolean b).leavesBelow.map .ok ∧
      g.conditionCount =
        (Clause.boolean b).leavesBelow.length + (g.compile options).warnings.length) ∧
    ((q.compile options).events =
      ((q.conditions.map fun tree => (tree.compile options).events).getD []) ++
        match (q.compile options).result with
        | .ok r =>
          [.compiled ((q.conditions.map ConditionGroup.conditionCount).getD 0) r.sort.length
            r.query.kind]
        | .error _ => []) ∧
    ∀ e, e ∈ (g.compile options).events ∨ e ∈ (q.compile options).events →
      e.ReportedAt e.level := by
  refine ⟨g.events_compileAt options 1, fun e => ?_, fun b hb => ?_, q.events_compile options,
    fun e he => he.elim ConditionGroup.reportedAt_of_mem_events Query.reportedAt_of_mem_events⟩
  · rw [ConditionGroup.compile, ConditionGroup.result_compileAt, outcome_eq_error_iff,
      ConditionGroup.findSome?_steps]
  · rw [ConditionGroup.compile, ConditionGroup.result_compileAt, outcome_eq_ok_iff] at hb
    obtain ⟨hnofault, rfl⟩ := hb
    have hwarnings := ConditionGroup.warnings_compile hnofault
    have hkept : (g.allConditions.filter fun c => !c.isSkipped options.onUnsupported).map
        Condition.clause = (Clause.boolean g.translation).leavesBelow.map .ok := by
      rw [g.leavesBelow_translation, List.map_filterMap, map_filter_eq_filterMap]
      apply List.filterMap_congr
      intro c hc
      exact (c.clause?_eq_ite (ConditionGroup.fault?_of_mem_allConditions hnofault c hc)).symm
    refine ⟨hwarnings, hkept, ?_⟩
    -- a condition is dropped or kept, so both parts together are all of them
    have hleaves := congrArg List.length hkept
    have hsplit := (List.filter_append_perm (fun c => c.isSkipped options.onUnsupported)
      g.allConditions).length_eq
    rw [List.length_map, List.length_map] at hleaves
    rw [List.length_append, hleaves, g.length_allConditions] at hsplit
    rw [hwarnings, List.length_map, ← hsplit, Nat.add_comm]

/-- Whoever is open and has a name or an age, and more that cannot be asked for. -/
def ConditionGroup.openAndNamedOrAged : ConditionGroup where
  operator := .or
  conditions := [.eq "name" "bob", ⟨"id", "neq", ["7"]⟩, .between "age" "18" ""]
  groups := [{ conditions := [⟨"tags", "like", ["new"]⟩, .eq "state" "open"] }]

/-- Three conditions become leaves and two are warned about; at a lower limit of depth the log ends
with the group that stands too deep. -/
theorem every_condition_accounted_for_openAndNamedOrAged :
    (ConditionGroup.openAndNamedOrAged.compile ⟨2, .skip⟩).events =
      [.skipped "id" "neq", .entered 2 .and, .skipped "tags" "like"] ∧
    ConditionGroup.openAndNamedOrAged.conditionCount = 3 + 2 ∧
    (ConditionGroup.openAndNamedOrAged.compile ⟨1, .skip⟩).events =
      [.skipped "id" "neq", .entered 2 .and] ∧
    Event.ReportedAt (.entered 2 .and) .trace := by
  obtain ⟨hlog, -, hcompiled, -, hlevels⟩ :=
    every_condition_accounted_for ⟨2, .skip⟩ .openAndNamedOrAged {}
  obtain ⟨hcut, -, -, -⟩ := every_condition_accounted_for ⟨1, .skip⟩ .openAndNamedOrAged {}
  obtain ⟨-, -, hcount⟩ := hcompiled _ rfl
  have hevents : (ConditionGroup.openAndNamedOrAged.compile ⟨2, .skip⟩).events =
      [.skipped "id" "neq", .entered 2 .and, .skipped "tags" "like"] := hlog.trans rfl
  exact ⟨hevents, hcount.trans rfl, hcut.trans rfl,
    hlevels (.entered 2 .and) (Or.inl (hevents ▸ by simp))⟩

end SearchQuery
