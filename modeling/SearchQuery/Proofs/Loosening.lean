import SearchQuery.Proofs.Accounting

/-!
# Looser options

Options are loosened by a higher limit of depth, or by dropping conditions where they were refused.
Whatever passed before passes then, with the same event, and of the faults only the wrong number of
operands stays, about which no option decides. So two runs under such options go together until the
stricter one fails, and a result that no option had a part in is the result of both.

Main statement: `loosening_keeps_results`.
-/

namespace SearchQuery

/-- The second options refuse nothing that the first let pass: their limit is no lower, and their
policy is the same or drops what the first refuses. -/
structure CompileOptions.LoosenedTo (o o' : CompileOptions) : Prop where
  limit : o.maxDepth ≤ o'.maxDepth
  policy : o.onUnsupported = o'.onUnsupported ∨ o.onUnsupported = .fail ∧ o'.onUnsupported = .skip

/-- Nothing is wrong but perhaps a number of operands, about which no option decides. -/
inductive IsFirm : Option CompileError → Prop
  | none : IsFirm none
  | operandCount (field : String) (operator : Operator) (found : Nat) :
    IsFirm (some (.operandCount field operator found))

namespace CompileOptions.LoosenedTo

variable {o o' : CompileOptions} (h : o.LoosenedTo o')
include h

/-- Who drops conditions goes on dropping them. -/
theorem policy_of_skip (hskip : o.onUnsupported = .skip) : o'.onUnsupported = .skip := by
  rcases h.policy with hsame | ⟨hfail, -⟩
  · exact hsame ▸ hskip
  · rw [hskip] at hfail
    cases hfail

/-! ## One check, one step -/

theorem fault?_condition {c : Condition} (hfirm : IsFirm (c.fault? o.onUnsupported)) :
    c.fault? o'.onUnsupported = c.fault? o.onUnsupported := by
  unfold Condition.fault? at hfirm ⊢
  cases hoperator : c.operator? with
  | some operator => rfl
  | none =>
    -- the condition did not fail, so the policy was to drop it
    rw [hoperator] at hfirm
    cases hpolicy : o.onUnsupported with
    | fail =>
      rw [hpolicy] at hfirm
      cases hfirm
    | skip => rw [h.policy_of_skip hpolicy]

/-- A check comes to the same under looser options, if no option had a part in what it came to. -/
theorem fault?_check {check : Check} (hfirm : IsFirm (check.fault? o)) :
    check.fault? o' = check.fault? o := by
  cases check with
  | condition c => exact h.fault?_condition hfirm
  | enter depth =>
    have hlimit : o.maxDepth.toNat ≤ o'.maxDepth.toNat := h.limit
    have hdepth : ¬o.maxDepth.toNat < depth := by
      intro hdeep
      rw [Check.fault?, if_pos hdeep] at hfirm
      cases hfirm
    rw [Check.fault?, Check.fault?, if_neg hdepth, if_neg (by omega)]

/-- So do several. -/
theorem findSome?_checks {checks : List Check}
    (hfirm : IsFirm (checks.findSome? (Check.fault? o))) :
    checks.findSome? (Check.fault? o') = checks.findSome? (Check.fault? o) := by
  induction checks with
  | nil => rfl
  | cons check rest ih =>
    rw [List.findSome?_cons] at hfirm
    rw [List.findSome?_cons, List.findSome?_cons]
    cases hfault : check.fault? o with
    | none =>
      rw [hfault] at hfirm
      rw [h.fault?_check (hfault ▸ .none), hfault]
      exact ih hfirm
    | some e =>
      rw [hfault] at hfirm
      rw [h.fault?_check (hfault ▸ hfirm), hfault]

/-- A step that passes is passed under looser options too. -/
theorem fault?_step {s : Step} (hpasses : s.fault? o = none) : s.fault? o' = none := by
  cases s with
  | announce => rfl
  | check check =>
    have hfault : check.fault? o = none := hpasses
    exact (h.fault?_check (hfault ▸ .none)).trans hfault

/-- It is reported in the same way: a condition that is dropped only now did not pass before. -/
theorem event?_step {s : Step} (hpasses : s.fault? o = none) : s.event? o' = s.event? o := by
  match s with
  | .announce .. => rfl
  | .check (.enter _) => rfl
  | .check (.condition c) =>
    have hfault : c.fault? o.onUnsupported = none := hpasses
    have hskipped : c.isSkipped o'.onUnsupported = c.isSkipped o.onUnsupported := by
      unfold Condition.isSkipped
      cases hoperator : c.operator? with
      | some operator => simp
      | none =>
        cases hpolicy : o.onUnsupported with
        | fail => simp [Condition.fault?, hoperator, hpolicy] at hfault
        | skip => rw [h.policy_of_skip hpolicy]
    rw [Step.event?, Step.event?, hskipped]

/-! ## Two runs -/

/-- The log under the looser options goes on where the other ends. -/
theorem log_prefix (steps : List Step) : Step.log o steps <+: Step.log o' steps := by
  induction steps with
  | nil => exact List.prefix_rfl
  | cons s rest ih =>
    cases hfault : s.fault? o with
    | some e =>
      rw [Step.log_cons_of_fault hfault]
      exact List.nil_prefix
    | none =>
      rw [Step.log_cons hfault, Step.log_cons (h.fault?_step hfault), h.event?_step hfault]
      exact (List.prefix_append_right_inj _).mpr ih

/-- Steps that all pass are reported in the same way. -/
theorem log_eq {steps : List Step} (hpass : steps.findSome? (Step.fault? o) = none) :
    Step.log o' steps = Step.log o steps := by
  have hfault : ∀ s ∈ steps, s.fault? o = none := List.findSome?_eq_none_iff.mp hpass
  have hpass' : steps.findSome? (Step.fault? o') = none :=
    List.findSome?_eq_none_iff.mpr fun s hs => h.fault?_step (hfault s hs)
  rw [Step.log_of_findSome?_eq_none hpass', Step.log_of_findSome?_eq_none hpass]
  exact List.filterMap_congr fun s hs => h.event?_step (hfault s hs)

end CompileOptions.LoosenedTo

/-! ## The groups that are announced -/

namespace Step

variable {options : CompileOptions} {e : Event}

theorem mem_log_append {first second : List Step} (h : e ∈ log options (first ++ second)) :
    e ∈ log options first ∨ e ∈ log options second := by
  rw [log_append, List.mem_append] at h
  split at h
  · exact h
  · exact Or.inl (h.resolve_right List.not_mem_nil)

theorem mem_log_flatMap {α : Type} {f : α → List Step} {items : List α}
    (h : e ∈ log options (items.flatMap f)) : ∃ a ∈ items, e ∈ log options (f a) := by
  induction items with
  | nil => cases h
  | cons a rest ih =>
    rw [List.flatMap_cons] at h
    rcases mem_log_append h with hfirst | hrest
    · exact ⟨a, List.mem_cons_self, hfirst⟩
    · obtain ⟨b, hb, hmem⟩ := ih hrest
      exact ⟨b, List.mem_cons_of_mem a hb, hmem⟩

end Step

/-- All that is reported of conditions is that they are dropped. -/
theorem level_of_mem_log_conditionSteps {options : CompileOptions} {conditions : List Condition}
    {e : Event} (h : e ∈ Step.log options (conditionSteps conditions)) : e.level = .warn := by
  obtain ⟨s, hs, hevent⟩ := Step.exists_of_mem_log h
  simp only [conditionSteps, List.map_map, List.mem_map, Function.comp] at hs
  obtain ⟨c, -, rfl⟩ := hs
  rw [Step.event?] at hevent
  split at hevent
  · obtain rfl := Option.some.inj hevent
    rfl
  · cases hevent

/-- A group that is announced stands at most one level below the limit: the group around it has
passed. -/
theorem ConditionGroup.depth_le_of_mem_log {options : CompileOptions} {g : ConditionGroup}
    {start : Nat} {e : Event} (h : e ∈ Step.log options (g.steps start)) (htrace : e.level = .trace) :
    ∃ operator, ∃ depth ≤ options.maxDepth.toNat + 1, e = .entered depth operator := by
  induction g generalizing start with
  | group operator conditions groups ih =>
    rw [steps, List.cons_append, stepsAll_eq_flatMap] at h
    have henter : (Step.check (.enter start)).fault? options =
        if options.maxDepth.toNat < start then some (.tooDeep options.maxDepth) else none := rfl
    by_cases hdeep : options.maxDepth.toNat < start
    · rw [if_pos hdeep] at henter
      rw [Step.log_cons_of_fault henter] at h
      cases h
    · rw [if_neg hdeep] at henter
      rw [Step.log_cons henter] at h
      rcases Step.mem_log_append h with hconditions | hgroups
      · have hwarn : e.level = .warn := level_of_mem_log_conditionSteps hconditions
        rw [htrace] at hwarn
        cases hwarn
      · obtain ⟨g, hg, hmem⟩ := Step.mem_log_flatMap hgroups
        rw [Step.log_cons rfl] at hmem
        rcases List.mem_cons.mp hmem with rfl | hnested
        · exact ⟨g.operator, start + 1, by omega, rfl⟩
        · exact ih g hg hnested

/-! ## Results that last -/

/-- A group that compiles does so under looser options, to the same clause and with the same log,
and a wrong number of operands remains the error. In any case the log is the beginning of the log
under the looser options, and no group is announced that stands more than a level below the
limit. -/
theorem loosening_keeps_results {o o' : CompileOptions} (h : o.LoosenedTo o')
    (g : ConditionGroup) :
    (∀ b, (g.compile o).result = .ok b →
      (g.compile o').result = .ok b ∧ (g.compile o').events = (g.compile o).events) ∧
    (∀ field operator found,
      (g.compile o).result = .error (.operandCount field operator found) →
        (g.compile o').result = .error (.operandCount field operator found)) ∧
    (g.compile o).events <+: (g.compile o').events ∧
    ∀ e ∈ (g.compile o).events, e.level = .trace →
      ∃ operator, ∃ depth ≤ o.maxDepth.toNat + 1, e = .entered depth operator := by
  simp only [ConditionGroup.compile, ConditionGroup.result_compileAt,
    ConditionGroup.events_compileAt]
  refine ⟨fun b hb => ?_, fun field operator found he => ?_, h.log_prefix _, fun e he htrace => ?_⟩
  · obtain ⟨hnone, rfl⟩ := outcome_eq_ok_iff.mp hb
    refine ⟨?_, h.log_eq (by rw [ConditionGroup.findSome?_steps, hnone])⟩
    rw [h.findSome?_checks (hnone ▸ .none), hnone]
    rfl
  · have hfault := outcome_eq_error_iff.mp he
    rw [h.findSome?_checks (hfault ▸ .operandCount field operator found), hfault]
    rfl
  · exact ConditionGroup.depth_le_of_mem_log he htrace

/-- Whoever is open and is named bob or of age. -/
def ConditionGroup.openAndBobOrOfAge : ConditionGroup where
  operator := .or
  conditions := [.eq "name" "bob", .between "age" "18" ""]
  groups := [{ conditions := [.eq "state" "open"] }]

/-- The buckets of that group. -/
def BooleanClause.openAndBobOrOfAge : BooleanClause where
  must := [.boolean { must := [.matchField "state" "open"] }]
  should := [.matchField "name" "bob", .range "age" { gte := some "18" }]
  minimum := some 1

/-- Nothing in the group needs looser options. The other one fails a level too high, and is
announced one level below the limit; with one level more its log goes on. -/
theorem loosening_keeps_results_openAndBobOrOfAge :
    CompileOptions.LoosenedTo ⟨2, .fail⟩ ⟨3, .skip⟩ ∧
    (ConditionGroup.openAndBobOrOfAge.compile ⟨2, .fail⟩).result = .ok .openAndBobOrOfAge ∧
    (ConditionGroup.openAndBobOrOfAge.compile ⟨3, .skip⟩).result = .ok .openAndBobOrOfAge ∧
    (ConditionGroup.openAndBobOrOfAge.compile ⟨3, .skip⟩).events = [.entered 2 .and] ∧
    CompileOptions.LoosenedTo ⟨1, .skip⟩ ⟨2, .skip⟩ ∧
    (ConditionGroup.openAndNamedOrAged.compile ⟨1, .skip⟩).result = .error (.tooDeep 1) ∧
    (ConditionGroup.openAndNamedOrAged.compile ⟨1, .skip⟩).events <+:
      (ConditionGroup.openAndNamedOrAged.compile ⟨2, .skip⟩).events := by
  have hboth : CompileOptions.LoosenedTo ⟨2, .fail⟩ ⟨3, .skip⟩ :=
    ⟨by decide, Or.inr ⟨rfl, rfl⟩⟩
  have hlimit : CompileOptions.LoosenedTo ⟨1, .skip⟩ ⟨2, .skip⟩ := ⟨by decide, Or.inl rfl⟩
  obtain ⟨hkept, -, -, -⟩ := loosening_keeps_results hboth .openAndBobOrOfAge
  obtain ⟨-, -, hlog, -⟩ := loosening_keeps_results hlimit .openAndNamedOrAged
  obtain ⟨hresult, hevents⟩ := hkept .openAndBobOrOfAge rfl
  exact ⟨hboth, rfl, hresult, hevents.trans rfl, hlimit, rfl, hlog⟩

end SearchQuery
