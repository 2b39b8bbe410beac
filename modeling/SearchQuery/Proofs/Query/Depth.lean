import SearchQuery.Proofs.Query.Agreement
import SearchQuery.Proofs.Query.RoundTrip
import SearchQuery.Proofs.ReadingBack

/-!
# How deep the groups of a text can nest

Two bounds meet here. A text may have no more than 127 containers open at once, and each level of
groups takes two of them, in whatever form the groups are given. A compilation counts levels and
stops at its limit. So the text itself sees to it that a limit of 63 is never exceeded.

Main statement: `text_nests_at_most_63_groups`.
-/

namespace SearchQuery

open Json

/-! ## The levels that are read -/

/-- A level of groups takes two containers; in the last one the group alone may do. -/
theorem ConditionGroup.depth_le_of_read {g : ConditionGroup} {t : Tree} {room : Nat}
    (h : t.read (.text room) .group = .ok g) : 2 * g.depth ≤ room + 1 := by
  induction g generalizing t room with
  | group operator conditions groups ih =>
    obtain ⟨inside, hroom, -, hgroups⟩ := exists_room_of_read h
    have hnested : ∀ g ∈ groups, g.depth ≤ inside / 2 := by
      intro g hg
      obtain ⟨below, t, hbelow, hread⟩ := hgroups g hg
      have hdepth := ih g hg hread
      omega
    have hdepth : depth ⟨operator, conditions, groups⟩ ≤ inside / 2 + 1 :=
      depth_le_iff.mpr hnested
    omega

theorem Query.depth_le_of_ofText {text : String} {q : Query}
    (h : Shape.query.ofText text = .ok q) : q.depth ≤ 63 := by
  obtain ⟨hread, -⟩ := Shape.ofText_eq_ok_iff.mp h
  unfold depth
  cases hq : q.conditions with
  | none => exact Nat.zero_le _
  | some g =>
    -- the query itself is the odd container
    obtain ⟨t, hgroup⟩ := exists_read_conditions hread hq
    have hdepth : 2 * g.depth ≤ 127 := ConditionGroup.depth_le_of_read hgroup
    show g.depth ≤ 63
    omega

/-! ## The levels that are compiled -/

section
variable {options : CompileOptions} {limit : UInt64}

/-- Only the depth of a group can be too great. -/
theorem Check.exists_enter_of_tooDeep {check : Check}
    (h : check.fault? options = some (.tooDeep limit)) :
    ∃ depth, check = .enter depth ∧ options.maxDepth.toNat < depth := by
  cases check with
  | enter depth =>
    rw [fault?] at h
    split at h
    · next hdeep => exact ⟨depth, rfl, hdeep⟩
    · cases h
  | condition c =>
    have hfault : c.fault? options.onUnsupported = some (.tooDeep limit) := h
    unfold Condition.fault? at hfault
    split at hfault
    · split at hfault <;> cases hfault
    · split at hfault <;> cases hfault

/-- The groups that are entered lie within the depth of the tree. -/
theorem ConditionGroup.lt_of_enter_mem_checks {g : ConditionGroup} {start depth : Nat}
    (h : .enter depth ∈ g.checks start) : depth < start + g.depth := by
  induction g generalizing start with
  | group operator conditions groups ih =>
    rw [checks_mk] at h
    rw [ConditionGroup.depth]
    rcases List.mem_cons.mp h with hself | hinside
    · obtain rfl := Check.enter.inj hself
      omega
    · rcases List.mem_append.mp hinside with hcondition | hnested
      · obtain ⟨c, -, hc⟩ := List.mem_map.mp hcondition
        cases hc
      · obtain ⟨g, hg, hmem⟩ := List.mem_flatMap.mp hnested
        have hdepth : depth < start + 1 + g.depth := ih g hg hmem
        have hle : g.depth ≤ ConditionGroup.depth.depthAll groups :=
          depthAll_le_iff.mp (Nat.le_refl _) g hg
        omega

/-- A query that keeps within the limit is not too deep. -/
theorem Query.result_compile_ne_tooDeep {q : Query} (h : q.depth ≤ options.maxDepth.toNat) :
    (q.compile options).result ≠ .error (.tooDeep limit) := by
  intro hresult
  rw [result_compile, outcome_eq_error_iff, fault?, Option.bind_eq_some_iff] at hresult
  obtain ⟨g, hg, hfault⟩ := hresult
  obtain ⟨check, hcheck, htooDeep⟩ := List.exists_of_findSome?_eq_some hfault
  obtain ⟨depth, rfl, hdeep⟩ := Check.exists_enter_of_tooDeep htooDeep
  have hdepth := ConditionGroup.lt_of_enter_mem_checks hcheck
  have hq : q.depth = g.depth := by rw [Query.depth, hg]; rfl
  omega

end

/-! ## The command -/

/-- A command that fails in compiling has read a query that does not compile. -/
theorem Config.exists_query_of_result_run {c : Config} {input : Option String} {e : CompileError}
    (h : (c.run input).result = .error (.compile e)) :
    ∃ text q, input = some text ∧ Shape.query.ofText text = .ok q ∧
      (q.compile c.compileOptions).result = .error e := by
  cases hc : c.command with
  | compile path =>
    cases input with
    | none =>
      unfold run at h
      rw [hc] at h
      cases h
    | some text =>
      obtain ⟨q, hq, hcompile⟩ := (result_run_compile_eq_error_iff hc).mp h
      exact ⟨text, q, rfl, hq, hcompile⟩
  | fields path start =>
    unfold run at h
    rw [hc] at h
    obtain hread | ⟨text, hread, h⟩ := Run.result_bind_eq_error_iff.mp h
    · cases input <;> cases hread
    dsimp only at h
    split at h
    · cases h
    · obtain hreport | ⟨-, -, ⟨⟩⟩ := Run.result_bind_eq_error_iff.mp h
      cases hreport
  | _ =>
    unfold run at h
    rw [hc] at h
    cases h

/-! ## A text as deep as can be -/

/-- Empty groups around an empty group. -/
def ConditionGroup.hollow : Nat → ConditionGroup
  | 0 => {}
  | n + 1 => { groups := [hollow n] }

namespace ConditionGroup

theorem depth_hollow (n : Nat) : (hollow n).depth = n + 1 := by
  induction n with
  | zero => rfl
  | succ n ih => rw [hollow, depth, depth.depthAll, ih, depth.depthAll, Nat.max_zero]

/-- Written out, a level is an object and the lists in it. -/
theorem nesting_json_hollow_le (n : Nat) : (hollow n).json.nesting ≤ 2 * n + 2 := by
  induction n with
  | zero => decide
  | succ n ih =>
    refine nesting_json_le (n := 2 * n + 2) nofun fun g hg => ?_
    obtain rfl := List.mem_singleton.mp hg
    exact ih

/-- There is nothing in it to fail but the depth. -/
theorem findSome?_checks_hollow {options : CompileOptions} {n start : Nat}
    (h : options.maxDepth.toNat < n + start) :
    ((hollow n).checks start).findSome? (Check.fault? options) =
      some (.tooDeep options.maxDepth) := by
  induction n generalizing start with
  | zero =>
    have hdeep : options.maxDepth.toNat < start := by omega
    simp [hollow, checks_mk, Check.fault?, hdeep]
  | succ n ih =>
    have hnested : ((hollow n).checks (start + 1)).findSome? (Check.fault? options) =
        some (.tooDeep options.maxDepth) := ih (by omega)
    by_cases hdeep : options.maxDepth.toNat < start
    · simp [hollow, checks_mk, Check.fault?, hdeep]
    · simpa [hollow, checks_mk, Check.fault?, hdeep] using hnested

end ConditionGroup

namespace Query

/-- A query for nothing, in so many groups around an empty one. -/
def hollow (n : Nat) : Query where
  conditions := some (.hollow n)

theorem depth_hollow (n : Nat) : (hollow n).depth = n + 1 :=
  ConditionGroup.depth_hollow n

theorem nesting_json_hollow_le (n : Nat) : (hollow n).json.nesting ≤ 2 * n + 3 := by
  refine Value.nesting_object_le_iff.mpr ?_
  simp only [List.forall_mem_cons]
  have hgroup : (ConditionGroup.hollow n).json.nesting ≤ 2 * n + 2 :=
    ConditionGroup.nesting_json_hollow_le n
  exact ⟨Nat.succ_le_succ (Nat.zero_le _), Nat.zero_le _, Nat.zero_le _,
    Nat.succ_le_succ (Nat.zero_le _), hgroup, nofun⟩

/-- With 62 groups around the inmost one there is just room for all of them. -/
theorem ofText_text_hollow {n : Nat} (h : n ≤ 62) (l : Layout) :
    Shape.query.ofText ((hollow n).json.text l) = .ok (hollow n) := by
  have hnesting := nesting_json_hollow_le n
  have hroom : (hollow n).json.nesting ≤ maxOpen := by
    unfold maxOpen
    omega
  exact (Shape.ofText_text_iff (hollow n).isExact_json hroom l).mpr (hollow n).presented_json

theorem result_compile_hollow {options : CompileOptions} {n : Nat}
    (h : options.maxDepth.toNat ≤ n) :
    ((hollow n).compile options).result = .error (.tooDeep options.maxDepth) := by
  rw [result_compile, outcome_eq_error_iff]
  exact ConditionGroup.findSome?_checks_hollow (by omega)

end Query

/-! ## Both bounds -/

/-- A query that is read from a text has no more than 63 levels of groups, so no command that allows
for as many ever finds them too deep. Some text has all 63, and the command that compiles it at a
limit of 62 fails. -/
theorem text_nests_at_most_63_groups :
    (∀ text q, Shape.query.ofText text = .ok q → q.depth ≤ 63) ∧
    (∀ c : Config, 63 ≤ c.maxDepth → ∀ input limit,
      (c.run input).result ≠ .error (.compile (.tooDeep limit))) ∧
    ∃ text q, Shape.query.ofText text = .ok q ∧ q.depth = 63 ∧
      ∀ (c : Config) path, c.command = .compile path → c.maxDepth = 62 →
        (c.run (some text)).result = .error (.compile (.tooDeep 62)) := by
  refine ⟨fun text q => Query.depth_le_of_ofText, fun c hlimit input limit hresult => ?_, ?_⟩
  · obtain ⟨text, q, -, hq, hcompile⟩ := Config.exists_query_of_result_run hresult
    have hlimit' : 63 ≤ c.compileOptions.maxDepth.toNat := hlimit
    have hdepth := Query.depth_le_of_ofText hq
    exact Query.result_compile_ne_tooDeep (Nat.le_trans hdepth hlimit') hcompile
  · have hread := Query.ofText_text_hollow (Nat.le_refl 62) .compact
    refine ⟨_, _, hread, Query.depth_hollow 62, fun c path hc hlimit => ?_⟩
    have hmax : c.compileOptions.maxDepth = 62 := hlimit
    have hcompile : ((Query.hollow 62).compile c.compileOptions).result = .error (.tooDeep 62) := by
      rw [Query.result_compile_hollow (by rw [hmax]; decide), hmax]
    exact (Config.result_run_compile_eq_error_iff hc).mpr ⟨_, hread, hcompile⟩

/-- The text with all 63 levels is read, and at a limit of 63 the command does not find it too
deep. -/
theorem text_nests_at_most_63_groups_hollow :
    Shape.query.ofText ((Query.hollow 62).json.text .indented) = .ok (.hollow 62) ∧
    (Query.hollow 62).depth ≤ 63 ∧
    ∀ limit, (Config.run { command := .compile none, maxDepth := 63 }
      (some ((Query.hollow 62).json.text .indented))).result ≠
        .error (.compile (.tooDeep limit)) := by
  have hread := Query.ofText_text_hollow (Nat.le_refl 62) .indented
  obtain ⟨hdepth, hcommand, -⟩ := text_nests_at_most_63_groups
  exact ⟨hread, hdepth _ _ hread,
    hcommand { command := .compile none, maxDepth := 63 } (by decide) _⟩

end SearchQuery
