import SearchQuery.Proofs.Steps
import SearchQuery.Request.Step

/-!
# What steps leave in a builder

Each step is about one setting of a builder and leaves the others alone. So only the order of the
steps on one setting matters, and what is built can be told from them setting by setting. Whether a
source of the query is empty is asked at the end, so one that was filled and then emptied gives way
to the next.

Main statement: `RequestBuilder.built_by_settings`.
-/

namespace SearchQuery

namespace RequestBuilder

/-! ## Settings -/

/-- The settings of a builder. -/
inductive Setting where
  | size
  | start
  | source
  | noSource
  | sort
  | buckets
  | collector
  | direct
  deriving DecidableEq

/-- What a setting is set to. -/
def Setting.Carrier : Setting → Type
  | size | start => Int64
  | source => List String
  | noSource => Bool
  | sort => List SortKey
  | buckets => BooleanClause
  | collector => Collector
  | direct => Option (String × String)

/-- What a setting is set to in a builder. -/
def get (b : RequestBuilder) : (k : Setting) → k.Carrier
  | .size => b.size
  | .start => b.start
  | .source => b.source
  | .noSource => b.noSource
  | .sort => b.sort
  | .buckets => b.buckets
  | .collector => b.collector
  | .direct => b.direct

/-- The setting that a step is about. -/
def Step.setting : Step → Setting
  | size _ => .size
  | start _ => .start
  | source _ => .source
  | noSource _ => .noSource
  | addSort _ | setSort _ | addSorts _ => .sort
  | buckets _ | fill _ => .buckets
  | collect _ => .collector
  | direct .. => .direct

/-- The settings are all that there is to a builder. -/
theorem eq_of_get {b b' : RequestBuilder} (h : ∀ k, b.get k = b'.get k) : b = b' := by
  have hsize : b.size = b'.size := h .size
  have hstart : b.start = b'.start := h .start
  have hsource : b.source = b'.source := h .source
  have hnoSource : b.noSource = b'.noSource := h .noSource
  have hsort : b.sort = b'.sort := h .sort
  have hbuckets : b.buckets = b'.buckets := h .buckets
  have hcollector : b.collector = b'.collector := h .collector
  have hdirect : b.direct = b'.direct := h .direct
  cases b
  cases b'
  simp_all

/-- A step leaves alone the settings that it is not about. -/
theorem get_apply_of_ne {s : Step} {k : Setting} (h : s.setting ≠ k) (b : RequestBuilder) :
    (s.apply b).get k = b.get k := by
  cases s <;> cases k <;> first | rfl | exact absurd rfl h

/-- What a step makes of its setting depends on nothing else. -/
theorem get_apply_congr (s : Step) {b b' : RequestBuilder}
    (h : b.get s.setting = b'.get s.setting) :
    (s.apply b).get s.setting = (s.apply b').get s.setting := by
  cases s with
  | addSort key => exact congrArg (· ++ [key]) h
  | addSorts keys => exact congrArg (· ++ keys) h
  | fill s => exact congrArg s.apply h
  | collect c => exact congrArg (Collector.add · c) h
  | _ => rfl

/-- The steps about other settings might as well be left out. -/
theorem get_run_filter (k : Setting) (steps : List Step) {b b' : RequestBuilder}
    (h : b.get k = b'.get k) :
    (run b steps).get k = (run b' (steps.filter fun s => s.setting = k)).get k := by
  induction steps generalizing b b' with
  | nil => exact h
  | cons s rest ih =>
    by_cases hs : s.setting = k
    · subst hs
      rw [List.filter_cons_of_pos (by simp)]
      exact ih (get_apply_congr s h)
    · rw [List.filter_cons_of_neg (by simpa using hs)]
      exact ih ((get_apply_of_ne hs b).trans h)

/-- Steps do the same to every setting, and that in the same order. -/
def AgreeBySetting (steps steps' : List Step) : Prop :=
  ∀ k : Setting, (steps.filter fun s => s.setting = k) = steps'.filter fun s => s.setting = k

theorem ofSteps_congr {steps steps' : List Step} (h : AgreeBySetting steps steps') :
    ofSteps steps = ofSteps steps' := by
  refine eq_of_get fun k => ?_
  rw [ofSteps, get_run_filter k steps rfl, h k]
  exact (get_run_filter k steps' rfl).symm

/-! ## What the steps tell of each setting -/

namespace Step

/-- The size that the step sets. -/
def size? : Step → Option Int64
  | size n => some n
  | _ => none

/-- The offset that the step sets. -/
def start? : Step → Option Int64
  | start n => some n
  | _ => none

/-- The fields to return that the step names. -/
def source? : Step → Option (List String)
  | source names => some names
  | _ => none

/-- Whether a source is wanted at all, if the step says so. -/
def noSource? : Step → Option Bool
  | noSource on => some on
  | _ => none

/-- The whole order that the step sets. -/
def order? : Step → Option (List SortKey)
  | setSort key => some [key]
  | _ => none

/-- The sort keys that the step adds. -/
def added : Step → List SortKey
  | addSort key => [key]
  | addSorts keys => keys
  | _ => []

/-- The boolean clause that the step gives. -/
def buckets? : Step → Option BooleanClause
  | buckets clause => some clause
  | _ => none

/-- What the step does to the boolean clause. -/
def fill? : Step → Option BooleanClause.Step
  | fill s => some s
  | _ => none

/-- The boolean clause behind a step that does not give another one. -/
def extend (clause : BooleanClause) (s : Step) : BooleanClause :=
  match s.fill? with
  | some t => t.apply clause
  | none => clause

/-- The clause that the step adds to the collector. -/
def collect? : Step → Option Clause
  | collect c => some c
  | _ => none

/-- The match that the step sets. -/
def direct? : Step → Option (String × String)
  | direct field value => some (field, value)
  | _ => none

/-- The sort keys: the order that was set last and all keys added since. -/
def sortKeys (steps : List Step) : List SortKey :=
  (lastSet order? steps).getD [] ++ (sinceSet order? steps).flatMap added

/-- The boolean clause: the last one given, with all that was done to it since. -/
def clause (steps : List Step) : BooleanClause :=
  BooleanClause.run ((lastSet buckets? steps).getD {}) ((sinceSet buckets? steps).filterMap fill?)

/-- The clauses collected. -/
def collected (steps : List Step) : List Clause := steps.filterMap collect?

end Step

theorem size_ofSteps (steps : List Step) :
    (ofSteps steps).size = (lastSet Step.size? steps).getD (-1) :=
  get_foldl_eq_lastSet size (fun _ s => by cases s <;> rfl) {} steps

theorem start_ofSteps (steps : List Step) :
    (ofSteps steps).start = (lastSet Step.start? steps).getD 0 :=
  get_foldl_eq_lastSet start (fun _ s => by cases s <;> rfl) {} steps

theorem source_ofSteps (steps : List Step) :
    (ofSteps steps).source = (lastSet Step.source? steps).getD [] :=
  get_foldl_eq_lastSet source (fun _ s => by cases s <;> rfl) {} steps

theorem noSource_ofSteps (steps : List Step) :
    (ofSteps steps).noSource = (lastSet Step.noSource? steps).getD false :=
  get_foldl_eq_lastSet noSource (fun _ s => by cases s <;> rfl) {} steps

theorem direct_ofSteps (steps : List Step) :
    (ofSteps steps).direct = lastSet Step.direct? steps := by
  have hset (b : RequestBuilder) (s : Step) :
      (s.apply b).direct = (s.direct?.map some).getD b.direct := by
    cases s <;> rfl
  rw [ofSteps, run, get_foldl_eq_lastSet direct hset, lastSet_map]
  cases lastSet Step.direct? steps <;> rfl

theorem sort_ofSteps (steps : List Step) : (ofSteps steps).sort = Step.sortKeys steps := by
  have hsort (b : RequestBuilder) (s : Step) :
      (s.apply b).sort = s.order?.getD (b.sort ++ s.added) := by
    cases s <;> first | rfl | exact (List.append_nil _).symm
  rw [Step.sortKeys, ofSteps, run, get_foldl_eq_of_set sort (fun keys s => keys ++ s.added) hsort,
    List.foldl_append_eq_append]
  rfl

theorem buckets_ofSteps (steps : List Step) : (ofSteps steps).buckets = Step.clause steps := by
  have hbuckets (b : RequestBuilder) (s : Step) :
      (s.apply b).buckets = s.buckets?.getD (Step.extend b.buckets s) := by
    cases s <;> rfl
  rw [ofSteps, run, get_foldl_eq_of_set buckets Step.extend hbuckets, Step.clause,
    BooleanClause.run, List.foldl_filterMap]
  congr 1
  funext clause s
  cases s <;> rfl

/-- Whatever the builder, the clauses collected come behind those that it has. -/
theorem collector_run (b : RequestBuilder) (steps : List Step) :
    (run b steps).collector.clauses = b.collector.clauses ++ Step.collected steps := by
  induction steps generalizing b with
  | nil => exact (List.append_nil _).symm
  | cons s rest ih =>
    have hstep : (s.apply b).collector.clauses = b.collector.clauses ++ s.collect?.toList := by
      cases s <;> first | rfl | exact (List.append_nil _).symm
    show (run (s.apply b) rest).collector.clauses = _
    rw [ih, hstep, List.append_assoc, Step.collected, Step.collected, List.filterMap_cons]
    cases s.collect? <;> rfl

/-! ## What is built -/

namespace Step

/-- The query: the boolean clause if something is in it, else the clauses collected, all of which
must match, else the match set last, else everything. -/
def asked (steps : List Step) : Clause :=
  if (clause steps).must = [] ∧ (clause steps).should = [] ∧ (clause steps).mustNot = [] ∧
      (clause steps).filter = [] then
    match collected steps, lastSet direct? steps with
    | c :: rest, _ => .boolean { must := c :: rest }
    | [], some (field, value) => .matchField field value
    | [], none => .matchAll
  else .boolean (clause steps)

/-- What is returned: the fields named last if there are any, else no source if that was wanted
last, else everything. -/
def returned (steps : List Step) : Projection :=
  match lastSet source? steps, lastSet noSource? steps with
  | some (name :: names), _ => .fields (name :: names)
  | _, some true => .noSource
  | _, _ => .all

end Step

/-- The query of a builder is never boolean with nothing in it. -/
theorem not_isEmpty_of_query {b : RequestBuilder} {clause : BooleanClause}
    (h : b.query = .boolean clause) : ¬clause.isEmpty = true := by
  unfold query at h
  split at h
  · next hbuckets =>
    obtain rfl := Clause.boolean.inj h
    simpa using hbuckets
  · split at h
    · next hcollector =>
      obtain rfl := Clause.boolean.inj h
      have hclauses : b.collector.clauses ≠ [] := by
        simpa [Collector.isEmpty] using hcollector
      exact fun hempty => hclauses (Buckets.isEmpty_iff.mp hempty).1
    · split at h <;> cases h

theorem query_ofSteps (steps : List Step) : (ofSteps steps).query = Step.asked steps := by
  have hcollected : (ofSteps steps).collector = ⟨Step.collected steps⟩ := by
    rw [← List.nil_append (Step.collected steps)]
    exact congrArg Collector.mk (collector_run {} steps)
  rw [query, buckets_ofSteps, hcollected, direct_ofSteps, Step.asked]
  by_cases hempty : (Step.clause steps).isEmpty = true
  · rw [if_pos (Buckets.isEmpty_iff.mp hempty), hempty]
    cases Step.collected steps with
    | nil => cases lastSet Step.direct? steps <;> rfl
    | cons c rest => rfl
  · rw [if_neg (mt Buckets.isEmpty_iff.mpr hempty), Bool.eq_false_iff.mpr hempty]
    rfl

theorem projection_ofSteps (steps : List Step) :
    (ofSteps steps).projection = Step.returned steps := by
  rw [projection, source_ofSteps, noSource_ofSteps, Step.returned]
  cases lastSet Step.source? steps with
  | none => cases lastSet Step.noSource? steps with
    | none => rfl
    | some on => cases on <;> rfl
  | some names => cases names with
    | nil => cases lastSet Step.noSource? steps with
      | none => rfl
      | some on => cases on <;> rfl
    | cons => rfl

/-- Steps that do the same to every setting build the same request, however they are mixed. It asks
for what the sources of a query hold in the end, returns what was named or wanted last, and is
sorted by the order set last with all keys since; and its query is never boolean with four empty
buckets. -/
theorem built_by_settings :
    (∀ steps steps', AgreeBySetting steps steps' →
      (ofSteps steps).build = (ofSteps steps').build) ∧
    ∀ steps, (ofSteps steps).build.query = Step.asked steps ∧
      (ofSteps steps).build.projection = Step.returned steps ∧
      (ofSteps steps).build.sort = Step.sortKeys steps ∧
      ∀ clause, (ofSteps steps).build.query = .boolean clause →
        ¬(clause.must = [] ∧ clause.should = [] ∧ clause.mustNot = [] ∧ clause.filter = []) := by
  refine ⟨fun steps steps' h => by rw [ofSteps_congr h], fun steps => ?_⟩
  exact ⟨query_ofSteps steps, projection_ofSteps steps, sort_ofSteps steps,
    fun _ hquery => mt Buckets.isEmpty_iff.mpr (not_isEmpty_of_query hquery)⟩

/-- A boolean clause that is filled and then replaced by an empty one, and a clause collected. -/
def withdrawnClause : List Step :=
  [.fill (.push .should .matchAll), .size 10, .noSource true, .buckets {}, .source [],
    .collect (.present "age")]

/-- The same, first of all the clause collected. -/
def withdrawnClauseAfter : List Step :=
  [.collect (.present "age"), .noSource true, .source [], .fill (.push .should .matchAll),
    .buckets {}, .size 10]

/-- In whichever order, the empty clause gives way to the collected one, and the empty list of
fields to the wish for no source. -/
theorem built_by_settings_withdrawnClause :
    AgreeBySetting withdrawnClause withdrawnClauseAfter ∧
    (ofSteps withdrawnClause).build = (ofSteps withdrawnClauseAfter).build ∧
    (ofSteps withdrawnClause).build.query = .boolean { must := [.present "age"] } ∧
    (ofSteps withdrawnClause).build.projection = .noSource ∧
    ¬([Clause.present "age"] = [] ∧ ([] : List Clause) = [] ∧ ([] : List Clause) = [] ∧
      ([] : List Clause) = []) := by
  have hagree : AgreeBySetting withdrawnClause withdrawnClauseAfter := by
    intro k
    cases k <;> rfl
  obtain ⟨hsame, hall⟩ := built_by_settings
  obtain ⟨hquery, hprojection, -, hnonempty⟩ := hall withdrawnClause
  exact ⟨hagree, hsame _ _ hagree, hquery, hprojection, hnonempty _ hquery⟩

end RequestBuilder

end SearchQuery
