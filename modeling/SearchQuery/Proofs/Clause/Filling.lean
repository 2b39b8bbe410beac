import SearchQuery.Clause.Step
import SearchQuery.Proofs.ReadingBack
import SearchQuery.Proofs.Steps

/-!
# What steps leave in a boolean clause

A bucket holds what was pushed to it since it was last emptied, and a clause that is wrapped is
frozen as the first of what must match in the new one. The minimum has a life of its own: it comes
with the first clause that should match, unless it is set before, and outlives the bucket, so that
only the rendering keeps it out where there is nothing to count.

Main statement: `BooleanClause.steps_fill_buckets`.
-/

namespace SearchQuery

open Json

namespace BooleanClause

/-! ## Buckets -/

namespace Step

/-- What is in a bucket before the step is there after it. -/
def keeps (bucket : Bucket) : Step → Bool
  | clear cleared => cleared ≠ bucket
  | wrap => false
  | _ => true

/-- The clause that the step adds to a bucket. -/
def pushed? (bucket : Bucket) : Step → Option Clause
  | push pushed c => if pushed = bucket then some c else none
  | _ => none

/-- What is in a bucket after steps of which the last has reset it. -/
def left (bucket : Bucket) (steps : List Step) : List Clause :=
  match bucket, steps.getLast? with
  | .must, some wrap => [.boolean (ofSteps steps.dropLast)]
  | _, _ => []

/-- The clauses in a bucket: what its last reset has left, then all that was pushed since. -/
def held (bucket : Bucket) (steps : List Step) : List Clause :=
  left bucket (steps.rdropWhile (keeps bucket)) ++
    (steps.rtakeWhile (keeps bucket)).filterMap (pushed? bucket)

variable {bucket : Bucket} {s : Step}

/-- A step that does not reset a bucket adds to it or leaves it as it is. -/
theorem get_apply_of_keeps (b : BooleanClause) (h : s.keeps bucket = true) :
    (s.apply b).get bucket = b.get bucket ++ (s.pushed? bucket).toList := by
  cases s with
  | push pushed c =>
    rw [apply, Buckets.get_push, pushed?]
    split <;> rfl
  | setMinimum n =>
    have hsame : (apply b (setMinimum n)).get bucket = b.get bucket := by cases bucket <;> rfl
    rw [hsame]
    exact (List.append_nil _).symm
  | clear cleared =>
    have hother : cleared ≠ bucket := of_decide_eq_true h
    rw [apply, Buckets.get_clear, if_neg hother]
    exact (List.append_nil _).symm
  | wrap => cases h

/-- A step that resets a bucket leaves nothing in it or, if it wraps, the clause as it was. -/
theorem get_apply_of_not_keeps (steps : List Step) (h : s.keeps bucket = false) :
    (s.apply (ofSteps steps)).get bucket = left bucket (steps ++ [s]) := by
  unfold left
  rw [List.getLast?_concat, List.dropLast_concat]
  cases s with
  | clear cleared =>
    have hsame : cleared = bucket := of_not_not (of_decide_eq_false h)
    rw [apply, Buckets.get_clear, if_pos hsame]
    cases bucket <;> rfl
  | wrap => cases bucket <;> rfl
  | push | setMinimum => cases h

end Step

theorem ofSteps_concat (steps : List Step) (s : Step) :
    ofSteps (steps ++ [s]) = s.apply (ofSteps steps) :=
  ofSteps_append steps [s]

/-- After any steps the clauses in a bucket are those that it holds by the steps. -/
theorem get_ofSteps (bucket : Bucket) (steps : List Step) :
    (ofSteps steps).get bucket = Step.held bucket steps := by
  refine eq_of_last_step (fun steps => (ofSteps steps).get bucket)
    (fun before since => Step.left bucket before ++ since.filterMap (Step.pushed? bucket))
    ?_ (fun steps s hs => ?_) (fun steps before since s hs ih => ?_) steps
  · cases bucket <;> rfl
  · rw [ofSteps_concat, Step.get_apply_of_not_keeps steps hs]
    exact (List.append_nil _).symm
  · rw [ofSteps_concat, Step.get_apply_of_keeps _ hs, ih, List.filterMap_append, List.append_assoc]
    cases hpushed : s.pushed? bucket <;> simp [hpushed]

/-! ## The minimum -/

namespace Step

/-- The step does not say what the minimum is. -/
def keepsMinimum : Step → Bool
  | setMinimum _ => false
  | wrap => false
  | _ => true

/-- The step adds a clause that should match. -/
def pushesShould : Step → Bool
  | push .should _ => true
  | _ => false

/-- The minimum after steps of which the last says what it is. -/
def minimumLeft (steps : List Step) : Option UInt32 :=
  match steps.getLast? with
  | some (setMinimum n) => n
  | _ => none

/-- The minimum: what it was set to last, else one if since then a clause came that should match. -/
def minimumHeld (steps : List Step) : Option UInt32 :=
  (minimumLeft (steps.rdropWhile keepsMinimum)).or
    (if (steps.rtakeWhile keepsMinimum).any pushesShould then some 1 else none)

variable {s : Step}

theorem minimum_apply_of_keeps (b : BooleanClause) (h : s.keepsMinimum = true) :
    (s.apply b).minimum = b.minimum.or (if s.pushesShould then some 1 else none) := by
  cases s with
  | push pushed c =>
    rw [apply, Buckets.minimum_push]
    cases pushed <;> cases b.minimum <;> rfl
  | clear cleared =>
    rw [apply, Buckets.minimum_clear]
    exact (Option.or_none).symm
  | setMinimum | wrap => cases h

theorem minimum_apply_of_not_keeps (steps : List Step) (h : s.keepsMinimum = false) :
    (s.apply (ofSteps steps)).minimum = minimumLeft (steps ++ [s]) := by
  unfold minimumLeft
  rw [List.getLast?_concat]
  cases s with
  | setMinimum | wrap => rfl
  | push | clear => cases h

end Step

/-- After any steps the minimum is the one that the steps tell. -/
theorem minimum_ofSteps (steps : List Step) :
    (ofSteps steps).minimum = Step.minimumHeld steps := by
  refine eq_of_last_step (fun steps => (ofSteps steps).minimum)
    (fun before since =>
      (Step.minimumLeft before).or (if since.any Step.pushesShould then some 1 else none))
    rfl (fun steps s hs => ?_) (fun steps before since s hs ih => ?_) steps
  · rw [ofSteps_concat, Step.minimum_apply_of_not_keeps steps hs]
    exact (Option.or_none).symm
  · rw [ofSteps_concat, Step.minimum_apply_of_keeps _ hs, ih, Option.or_assoc, List.any_append]
    -- the first of several clauses that should match brings the minimum
    cases since.any Step.pushesShould <;> simp

/-- A minimum stays through pushes to any bucket and through emptying any. -/
theorem minimum_run_of_some {b : BooleanClause} {n : UInt32} (hn : b.minimum = some n)
    {steps : List Step} (h : ∀ s ∈ steps, s.keepsMinimum = true) :
    (run b steps).minimum = some n := by
  induction steps generalizing b with
  | nil => exact hn
  | cons s rest ih =>
    obtain ⟨hs, hrest⟩ := List.forall_mem_cons.mp h
    have hstep : (s.apply b).minimum = some n := by
      rw [Step.minimum_apply_of_keeps b hs, hn, Option.some_or]
    exact ih hstep hrest

end BooleanClause

/-! ## Clause positions -/

/-- The name of a bucket in a rendering. -/
def Bucket.key : Bucket → String
  | must => "must"
  | should => "should"
  | mustNot => "must_not"
  | filter => "filter"

/-- The clause at a place inside another: the bucket to look in at each level, and where in it. -/
def Clause.at? : List (Bucket × Nat) → Clause → Option Clause
  | [], c => some c
  | (bucket, i) :: place, .boolean b => (b.get bucket)[i]?.bind (Clause.at? place)
  | _ :: _, _ => none

/-- What a rendering has at the place of a clause. -/
def Json.Value.clauseAt? : List (Bucket × Nat) → Value → Option Value
  | [], v => some v
  | (bucket, i) :: place, v =>
    match (v.get? "bool").bind (Value.get? bucket.key) with
    | some (.array items) => items[i]?.bind (clauseAt? place)
    | _ => none

/-- A bucket is rendered under its key, unless it is empty. -/
theorem Buckets.get?_json (b : BooleanClause) (bucket : Bucket) :
    b.json.get? bucket.key =
      if (b.get bucket).isEmpty then none else some (.array ((b.get bucket).map Clause.json)) := by
  cases bucket <;> simp [Buckets.json, Value.get?, Bucket.key, Buckets.get, List.lookup_append]

theorem Buckets.get?_json_minimum (b : BooleanClause) :
    b.json.get? "minimum_should_match" =
      (if b.should.isEmpty then none else b.minimum).map fun n => .int n.toNat := by
  simp [Buckets.json, Value.get?, List.lookup_append]

/-- Only a boolean clause is rendered as one. -/
theorem Clause.get?_json_bool (c : Clause) :
    c.json.get? "bool" = match c with
      | .boolean b => some b.json
      | _ => none := by
  cases c with
  | boolean b => rw [json_boolean_eq]; rfl
  | _ => rfl

/-- At the place of a clause there is its rendering. -/
theorem Clause.clauseAt?_json (place : List (Bucket × Nat)) (c : Clause) :
    c.json.clauseAt? place = (c.at? place).map json := by
  induction place generalizing c with
  | nil => rfl
  | cons step place ih =>
    obtain ⟨bucket, i⟩ := step
    rw [Value.clauseAt?, get?_json_bool]
    cases c with
    | boolean b =>
      rw [at?, Option.bind_some, Buckets.get?_json]
      cases b.get bucket with
      | nil => rfl
      | cons first rest =>
        show ((first :: rest).map json)[i]?.bind _ = _
        rw [List.getElem?_map]
        cases (first :: rest)[i]? with
        | none => rfl
        | some c => exact ih c
    | _ => rfl

/-- How the body of a boolean clause is rendered. -/
structure Buckets.IsRenderedAs (b : BooleanClause) (body : Value) : Prop where
  /-- The minimum is there exactly if there is one and something it counts. -/
  minimum : ∀ v, body.get? "minimum_should_match" = some v ↔
    b.should ≠ [] ∧ ∃ n, b.minimum = some n ∧ v = .int n.toNat
  buckets : ∀ bucket : Bucket, body.get? bucket.key ≠ some (.array [])
  keys : body.keys.Sublist ["must", "should", "minimum_should_match", "must_not", "filter"]

theorem Buckets.isRenderedAs_json (b : BooleanClause) : b.IsRenderedAs b.json where
  minimum v := by
    rw [get?_json_minimum]
    cases b.should <;> cases b.minimum <;> simp [eq_comm]
  buckets bucket := by
    rw [get?_json]
    cases b.get bucket <;> simp
  keys := by
    simp only [json, Value.keys, List.map_append]
    exact ((((keys_listMember_sublist ..).append (keys_listMember_sublist ..)).append
      (keys_optionalMember_sublist ..)).append (keys_listMember_sublist ..)).append
      (keys_listMember_sublist ..)

/-- Whatever a rendering has as a boolean clause at the place of a clause is rendered from the
boolean clause at that place. -/
theorem Clause.exists_isRenderedAs {c : Clause} {place : List (Bucket × Nat)} {v body : Value}
    (hplace : c.json.clauseAt? place = some v) (hbody : v.get? "bool" = some body) :
    ∃ b, c.at? place = some (.boolean b) ∧ b.IsRenderedAs body := by
  rw [clauseAt?_json] at hplace
  obtain ⟨d, hd, rfl⟩ := Option.map_eq_some_iff.mp hplace
  rw [get?_json_bool] at hbody
  cases d with
  | boolean b =>
    obtain rfl := Option.some.inj hbody
    exact ⟨b, hd, b.isRenderedAs_json⟩
  | _ => cases hbody

namespace BooleanClause

/-- Whatever is done to an empty clause, a bucket holds what its last reset has left and what was
pushed since, and the minimum is what it was set to last, else one if since then a clause was pushed
that should match. So a minimum that is set stays until it is set again or the clause is wrapped, as
does the one that is there after such a push. And wherever the rendering has a boolean clause, the
minimum is there exactly if there is one and something it counts, no bucket is empty, and the keys
come in their order. -/
theorem steps_fill_buckets :
    (∀ steps bucket, (ofSteps steps).get bucket = Step.held bucket steps) ∧
    (∀ steps, (ofSteps steps).minimum = Step.minimumHeld steps) ∧
    (∀ before n after, (∀ s ∈ after, s.keepsMinimum = true) →
      (ofSteps (before ++ .setMinimum (some n) :: after)).minimum = some n) ∧
    (∀ before c after, (∀ s ∈ after, s.keepsMinimum = true) →
      (ofSteps (before ++ .push .should c :: after)).minimum =
        some ((ofSteps before).minimum.getD 1)) ∧
    ∀ steps place v body, (Clause.boolean (ofSteps steps)).json.clauseAt? place = some v →
      v.get? "bool" = some body →
        ∃ b, (Clause.boolean (ofSteps steps)).at? place = some (.boolean b) ∧
          b.IsRenderedAs body := by
  refine ⟨fun steps bucket => get_ofSteps bucket steps, minimum_ofSteps,
    fun before n after h => ?_, fun before c after h => ?_,
    fun steps place v body => Clause.exists_isRenderedAs⟩
  · have hset : (Step.apply (ofSteps before) (.setMinimum (some n))).minimum = some n := rfl
    rw [ofSteps_append]
    exact minimum_run_of_some hset h
  · have hpush : (Step.apply (ofSteps before) (.push .should c)).minimum =
        some ((ofSteps before).minimum.getD 1) := rfl
    rw [ofSteps_append]
    exact minimum_run_of_some hpush h

/-- One alternative is withdrawn with its bucket, another one comes. -/
def changedAlternatives : List Step :=
  [.push .should (.present "name"), .clear .should, .push .should (.present "age")]

/-- The same where two were asked for, in a wrapping. -/
def wrappedAlternatives : List Step := .setMinimum (some 2) :: changedAlternatives ++ [.wrap]

/-- The body of the clause in the wrapping. -/
def bodyOfTwo : Value :=
  .object [("should", .array [.object [("exists", .object [("field", .string "age")])]]),
    ("minimum_should_match", .int 2)]

/-- Two that were asked for are still asked for when one is left, and one is where nothing was said.
Inside a wrapping the clause is rendered with its minimum. -/
theorem steps_fill_buckets_changedAlternatives :
    (∀ s ∈ changedAlternatives, s.keepsMinimum = true) ∧
    (ofSteps ([.push .must .matchAll] ++ .setMinimum (some 2) :: changedAlternatives)).minimum =
      some 2 ∧
    (ofSteps ([] ++ .push .should .matchAll :: changedAlternatives)).minimum = some 1 ∧
    (Clause.boolean (ofSteps wrappedAlternatives)).json.clauseAt? [(.must, 0)] =
      some (.object [("bool", bodyOfTwo)]) ∧
    (Value.object [("bool", bodyOfTwo)]).get? "bool" = some bodyOfTwo ∧
    ∃ b, (Clause.boolean (ofSteps wrappedAlternatives)).at? [(.must, 0)] = some (.boolean b) ∧
      b.IsRenderedAs bodyOfTwo := by
  have hkeep : ∀ s ∈ changedAlternatives, s.keepsMinimum = true := by
    simp [changedAlternatives, Step.keepsMinimum]
  obtain ⟨-, -, hset, hpush, hplace⟩ := steps_fill_buckets
  exact ⟨hkeep, hset _ _ _ hkeep, hpush _ _ _ hkeep, rfl, rfl, hplace _ _ _ _ rfl rfl⟩

end BooleanClause

end SearchQuery
