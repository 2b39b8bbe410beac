import SearchQuery.Proofs.Outcome

/-!
# What a compiled query means

A condition tree is true or false of a document, given what is the case there; so is the JSON of a
search request, by the rules of the query language. Neither reading knows of the other or of the
compiler between them.

Main statement: whenever a query compiles, the request holds of the same documents as the tree.
-/

namespace SearchQuery

open Json

/-! ## What is the case on a document -/

/-- The ends that a range can have. -/
inductive Side where
  | gte
  | lte
  | gt
  | lt
  deriving DecidableEq

/-- The key of an end in a range clause. -/
def Side.key : Side → String
  | gte => "gte"
  | lte => "lte"
  | gt => "gt"
  | lt => "lt"

/-- The end with this key. -/
def Side.ofKey? (key : String) : Option Side :=
  [gte, lte, gt, lt].find? fun s => s.key = key

/-- What is the case on one document. Nothing ties the answers to each other. -/
structure Facts where
  /-- The field matches the value. -/
  matching : String → String → Bool
  /-- The field can be compared at all. -/
  ranged : String → Bool
  /-- The field lies on the inner side of the value. -/
  inside : Side → String → String → Bool

namespace Facts

/-! ## The language of requests -/

/-- Whether every bound of a range keeps the field inside; `none` if something is no bound. -/
def bounds? (f : Facts) (field : String) : List (String × Value) → Option Bool
  | [] => some true
  | (key, v) :: rest => do
    let side ← Side.ofKey? key
    let value ← v.string?
    let others ← f.bounds? field rest
    return f.inside side field value && others

/-- The minimum of a boolean query, if it has one; `none` if it is no number of clauses. -/
def minimum? (members : List (String × Value)) : Option (Option Nat) :=
  match members.lookup "minimum_should_match" with
  | none => some none
  | some (.number (.integer (.ofNat n))) => some (some n)
  | some _ => none

/-- A boolean query by the truths in the buckets it has. Without a minimum, one of what should
hold has to if there is nothing that must. -/
def combine (truths : List (String × List Bool)) (minimum : Option Nat) : Bool :=
  let bucket (key : String) := (truths.lookup key).getD []
  let isPresent (key : String) := (truths.lookup key).isSome
  let least := minimum.getD
    (if !isPresent "should" || isPresent "must" || isPresent "filter" then 0 else 1)
  (bucket "must").all id && (bucket "filter").all id && !(bucket "must_not").any id &&
    least ≤ (bucket "should").count true

mutual
/-- Whether a query holds; `none` for what is no query. -/
def holds? (f : Facts) : Value → Option Bool
  | .object [("match_all", .object [])] => some true
  | .object [("match", .object [(field, .string value)])] => some (f.matching field value)
  | .object [("range", .object [(field, .object bounds)])] =>
    (f.bounds? field bounds).map (f.ranged field && ·)
  | .object [("bool", .object members)] => do
    let truths ← f.buckets? members
    let minimum ← minimum? members
    return combine truths minimum
  | _ => none

/-- The truths of the queries in each bucket of a boolean one. -/
def buckets? (f : Facts) : List (String × Value) → Option (List (String × List Bool))
  | [] => some []
  | ("minimum_should_match", _) :: rest => f.buckets? rest
  | (key, .array items) :: rest =>
    if key ∈ ["must", "should", "must_not", "filter"] then do
      let truths ← f.holdAll? items
      let others ← f.buckets? rest
      return (key, truths) :: others
    else none
  | _ => none

/-- The truths of several queries. -/
def holdAll? (f : Facts) : List Value → Option (List Bool)
  | [] => some []
  | v :: rest => do
    let truth ← f.holds? v
    let others ← f.holdAll? rest
    return truth :: others
end

/-! ## Condition trees -/

/-- An end of a range that is open, or that the field keeps inside of. -/
def within (f : Facts) (side : Side) (field operand : String) : Bool :=
  operand = "" || f.inside side field operand

/-- Whether a condition holds. -/
def condition (f : Facts) (c : Condition) : Bool :=
  match Operator.ofTag? c.operator, c.operands with
  | some .eq, [v] | some .contains, [v] => f.matching c.field v
  | some .between, [low, high] =>
    f.ranged c.field && f.within .gte c.field low && f.within .lte c.field high
  | some .lt, [v] => f.ranged c.field && f.within .lt c.field v
  | some .lte, [v] => f.ranged c.field && f.within .lte c.field v
  | some .gt, [v] => f.ranged c.field && f.within .gt c.field v
  | some .gte, [v] => f.ranged c.field && f.within .gte c.field v
  | _, _ => false

end Facts

/-- A condition that the policy drops. -/
def Condition.isSkipped (policy : UnsupportedPolicy) (c : Condition) : Bool :=
  policy = .skip && c.operator?.isNone

/-- The direct conditions of a group by their truths; of none, nothing is asked. -/
def GroupOperator.combine : GroupOperator → List Bool → Bool
  | and, truths => truths.all id
  | or, truths => truths.isEmpty || truths.any id

namespace Facts

/-- Whether a group holds: its direct conditions by its operator, and every nested group. -/
def group (f : Facts) (policy : UnsupportedPolicy) : ConditionGroup → Bool
  | ⟨operator, conditions, groups⟩ =>
    operator.combine ((conditions.filter fun c => !c.isSkipped policy).map f.condition) &&
      allGroups groups
where
  /-- Whether several groups hold. -/
  allGroups : List ConditionGroup → Bool
    | [] => true
    | g :: rest => f.group policy g && allGroups rest

/-- Whether a query's condition tree holds; without one, nothing is asked. -/
def query (f : Facts) (policy : UnsupportedPolicy) (q : Query) : Bool :=
  (q.conditions.map (f.group policy)).getD true

variable (f : Facts)

/-! ## The clauses of conditions -/

/-- A bound that is given keeps the field inside, one that is not asks nothing. -/
theorem bounds?_optionalMember (side : Side) {key : String}
    (hkey : Side.ofKey? key = some side) (field : String) (bound : Option String)
    (rest : List (String × Value)) :
    f.bounds? field (optionalMember key (bound.map .string) ++ rest) =
      (f.bounds? field rest).map (bound.all (f.inside side field) && ·) := by
  cases bound with
  | none => simp [optionalMember]
  | some value =>
    simp only [optionalMember, Option.map_some, Option.toList_some, List.map_cons, List.map_nil,
      List.cons_append, List.nil_append, bounds?, hkey, Value.string?, Option.bind_eq_bind,
      Option.bind_some, Option.all_some]
    cases f.bounds? field rest <;> rfl

/-- A range holds if the field can be compared and every bound keeps it inside. -/
theorem holds?_range (field : String) (b : Bounds) :
    f.holds? (Clause.range field b).json =
      some (f.ranged field && (b.gte.all (f.inside .gte field) &&
        (b.lte.all (f.inside .lte field) && (b.gt.all (f.inside .gt field) &&
          b.lt.all (f.inside .lt field))))) := by
  rw [Clause.json, Bounds.json, holds?, List.append_assoc, List.append_assoc,
    ← List.append_nil (optionalMember "lt" _), bounds?_optionalMember f .gte (by decide),
    bounds?_optionalMember f .lte (by decide),
    bounds?_optionalMember f .gt (by decide),
    bounds?_optionalMember f .lt (by decide), bounds?]
  simp only [Option.map_some, Bool.and_true]

theorem all_bound (side : Side) (field operand : String) :
    (bound operand).all (f.inside side field) = f.within side field operand := by
  by_cases h : operand = "" <;> simp [bound, within, h]

/-- The clause of a condition holds exactly if the condition does. -/
theorem holds?_clause {c : Condition} {clause : Clause} (h : c.clause = .ok clause) :
    f.holds? clause.json = some (f.condition c) := by
  unfold condition
  obtain ⟨o, ho, htemplate⟩ := Condition.template_of_clause h
  rcases htemplate with ⟨make, v, hmake, hs, rfl⟩ | ⟨make, v, w, hmake, hs, rfl⟩
  · rw [ho, hs]
    cases o <;> cases hmake
    case inl.eq.refl | inl.contains.refl => rfl
    all_goals simp [holds?_range, all_bound]
  · rw [ho, hs]
    cases o <;> cases hmake
    simp [holds?_range, all_bound, Bool.and_assoc]

/-! ## Boolean clauses -/

theorem holdAll?_map {α : Type} {render : α → Value} {truth : α → Bool} {items : List α}
    (h : ∀ a ∈ items, f.holds? (render a) = some (truth a)) :
    f.holdAll? (items.map render) = some (items.map truth) := by
  induction items with
  | nil => rfl
  | cons a rest ih =>
    have hrest := ih fun b hb => h b (List.mem_cons_of_mem a hb)
    rw [List.map_cons, holdAll?, h a List.mem_cons_self, hrest]
    rfl

theorem holdAll?_cons_eq_some {v : Value} {rest : List Value} {truths : List Bool}
    (h : f.holdAll? (v :: rest) = some truths) :
    ∃ truth later, f.holds? v = some truth ∧ f.holdAll? rest = some later ∧
      truths = truth :: later := by
  simp only [holdAll?, Option.bind_eq_bind, Option.bind_eq_some_iff, Option.pure_def,
    Option.some.injEq] at h
  obtain ⟨truth, hv, later, hrest, htruths⟩ := h
  exact ⟨truth, later, hv, hrest, htruths.symm⟩

theorem holdAll?_append {xs ys : List Value} {truths others : List Bool}
    (hxs : f.holdAll? xs = some truths) (hys : f.holdAll? ys = some others) :
    f.holdAll? (xs ++ ys) = some (truths ++ others) := by
  induction xs generalizing truths with
  | nil =>
    obtain rfl : [] = truths := Option.some.inj hxs
    exact hys
  | cons v rest ih =>
    obtain ⟨truth, later, hv, hrest, rfl⟩ := f.holdAll?_cons_eq_some hxs
    rw [List.cons_append, holdAll?, hv, ih hrest]
    rfl

/-- Every query has its truth. -/
theorem isEmpty_of_holdAll? {items : List Value} {truths : List Bool}
    (h : f.holdAll? items = some truths) : items.isEmpty = truths.isEmpty := by
  cases items with
  | nil =>
    obtain rfl : [] = truths := Option.some.inj h
    rfl
  | cons v rest =>
    obtain ⟨truth, later, -, -, rfl⟩ := f.holdAll?_cons_eq_some h
    rfl

/-- What is read of a bucket: nothing if it is empty. -/
def bucketTruths (key : String) (truths : List Bool) : List (String × List Bool) :=
  if truths.isEmpty then [] else [(key, truths)]

theorem buckets?_listMember (key : String) (hkey : key ∈ ["must", "should", "must_not", "filter"])
    {items : List Value} {rest : List (String × Value)} {truths : List Bool}
    {others : List (String × List Bool)} (hitems : f.holdAll? items = some truths)
    (hrest : f.buckets? rest = some others) :
    f.buckets? (listMember key items ++ rest) = some (bucketTruths key truths ++ others) := by
  unfold listMember bucketTruths
  rw [f.isEmpty_of_holdAll? hitems]
  by_cases hempty : truths.isEmpty = true
  · rw [if_pos hempty, if_pos hempty]
    exact hrest
  · -- the minimum is the one member of a boolean query that is no bucket
    have hne : key = "minimum_should_match" → False := by
      rintro rfl
      revert hkey
      decide
    rw [if_neg hempty, if_neg hempty, List.singleton_append, buckets?, if_pos hkey, hitems, hrest]
    · rfl
    · exact hne

/-- A boolean clause with nothing but what must and what should hold is read as it is meant: the
minimum counts if there is something that should. -/
theorem holds?_boolean {must should : List Clause} {minimum : Option UInt32}
    {musts shoulds : List Bool} (hmust : f.holdAll? (must.map Clause.json) = some musts)
    (hshould : f.holdAll? (should.map Clause.json) = some shoulds) :
    f.holds? (Clause.boolean { must, should, minimum }).json =
      some (combine (bucketTruths "must" musts ++ bucketTruths "should" shoulds)
        ((if should.isEmpty then none else minimum).map UInt32.toNat)) := by
  rw [Clause.json, holds?]
  simp only [Clause.jsonAll_eq_map, List.map_nil, List.append_assoc]
  -- from here on it does not matter where the minimum comes from
  generalize (if should.isEmpty then none else minimum) = least
  have hrest : f.buckets? (optionalMember "minimum_should_match"
      (least.map fun n => .int n.toNat) ++ (listMember "must_not" [] ++ listMember "filter" [])) =
        some [] := by
    cases least <;> rfl
  have hshoulds := f.buckets?_listMember "should" (by decide) hshould hrest
  have hmusts := f.buckets?_listMember "must" (by decide) hmust hshoulds
  have hminimum : ∀ members, minimum? (listMember "must" (must.map Clause.json) ++
      (listMember "should" (should.map Clause.json) ++ members)) = minimum? members := by
    intro members
    unfold minimum?
    simp [List.lookup_append]
  rw [hmusts, hminimum, List.append_nil]
  cases least <;> rfl

/-- If there is only what must hold, all of it has to. -/
theorem combine_must (truths : List Bool) :
    combine (bucketTruths "must" truths ++ bucketTruths "should" []) none = truths.all id := by
  cases truths with
  | nil => rfl
  | cons t rest => simp [combine, bucketTruths, List.lookup_cons]

/-- With a minimum of one, what should hold is a disjunction, whether or not something must. -/
theorem combine_should {truths : List Bool} (hne : truths.isEmpty = false) (others : List Bool) :
    combine (bucketTruths "must" others ++ bucketTruths "should" truths) (some 1) =
      (truths.any id && others.all id) := by
  have hany : decide (true ∈ truths) = truths.any id := by
    rw [Bool.eq_iff_iff]
    simp
  cases others with
  | nil => simp [combine, bucketTruths, List.lookup_cons, hne, hany]
  | cons t rest => simp [combine, bucketTruths, List.lookup_cons, hne, hany, Bool.and_comm]

/-- The clause of a group holds if its direct conditions do, as its operator asks, and all nested
groups. -/
theorem holds?_join (operator : GroupOperator) {direct : List Clause}
    {nested : List BooleanClause} {truths others : List Bool}
    (hdirect : f.holdAll? (direct.map Clause.json) = some truths)
    (hnested : f.holdAll? ((nested.map Clause.boolean).map Clause.json) = some others) :
    f.holds? (Clause.boolean (operator.join direct nested)).json =
      some (operator.combine truths && others.all id) := by
  cases operator with
  | and =>
    have hmust : f.holdAll? ((direct ++ nested.map Clause.boolean).map Clause.json) =
        some (truths ++ others) := by
      rw [List.map_append]
      exact f.holdAll?_append hdirect hnested
    have hshould : f.holdAll? (([] : List Clause).map Clause.json) = some [] := rfl
    rw [GroupOperator.join, f.holds?_boolean hmust hshould, if_pos List.isEmpty_nil,
      Option.map_none, combine_must, List.all_append]
    rfl
  | or =>
    have hempty : direct.isEmpty = truths.isEmpty := by
      rw [← f.isEmpty_of_holdAll? hdirect, List.isEmpty_map]
    rw [GroupOperator.join, f.holds?_boolean hnested hdirect, GroupOperator.combine, hempty]
    cases h : truths.isEmpty with
    | true =>
      -- nothing should hold, and no minimum is rendered that could not be met
      obtain rfl : truths = [] := List.isEmpty_iff.mp h
      rw [if_pos rfl, Option.map_none, combine_must]
      rfl
    | false =>
      -- without the minimum, a nested group would make the direct conditions optional
      have hminimum : (some (1 : UInt32)).map UInt32.toNat = some 1 := rfl
      rw [if_neg Bool.false_ne_true, if_neg Bool.false_ne_true, hminimum, combine_should h]
      rfl

/-! ## Groups -/

/-- The direct conditions hold as their clauses do, if nothing is wrong with them. -/
theorem holdAll?_conditions {policy : UnsupportedPolicy} {conditions : List Condition}
    (h : ∀ c ∈ conditions, c.fault? policy = none) :
    f.holdAll? ((conditions.filterMap Condition.clause?).map Clause.json) =
      some ((conditions.filter fun c => !c.isSkipped policy).map f.condition) := by
  induction conditions with
  | nil => rfl
  | cons c rest ih =>
    have hfault := h c List.mem_cons_self
    have hrest := ih fun d hd => h d (List.mem_cons_of_mem c hd)
    rcases c.clause_cases with ⟨ho, hc⟩ | ⟨o, ho, hlength, hc⟩ | ⟨o, clause, ho, hlength, hc⟩
    · -- without a clause for its operator it can only be skipped
      have hskip : policy = .skip := by
        cases policy with
        | fail => simp [Condition.fault?, ho] at hfault
        | skip => rfl
      have hclause : c.clause? = none := Condition.clause?_of_error hc
      have hskipped : c.isSkipped policy = true := by simp [Condition.isSkipped, hskip, ho]
      rw [List.filterMap_cons_none hclause, List.filter_cons_of_neg (by simp [hskipped])]
      exact hrest
    · simp [Condition.fault?, ho, hlength] at hfault
    · have hclause : c.clause? = some clause := Condition.clause?_eq_some_iff.mpr hc
      have hkept : c.isSkipped policy = false := by simp [Condition.isSkipped, ho]
      rw [List.filterMap_cons_some hclause, List.filter_cons_of_pos (by simp [hkept]),
        List.map_cons, List.map_cons, holdAll?, f.holds?_clause hc, hrest]
      rfl

theorem allGroups_eq_all (policy : UnsupportedPolicy) (groups : List ConditionGroup) :
    group.allGroups f policy groups = (groups.map (f.group policy)).all id := by
  induction groups with
  | nil => rfl
  | cons g rest ih => rw [group.allGroups, ih, List.map_cons, List.all_cons]; rfl

/-- The translation of a group holds exactly if the group does, if no check of it fails. -/
theorem holds?_translation {options : CompileOptions} {depth : Nat} {g : ConditionGroup}
    (h : ∀ check ∈ g.checks depth, check.fault? options = none) :
    f.holds? (Clause.boolean g.translation).json = some (f.group options.onUnsupported g) := by
  induction g generalizing depth with
  | group operator conditions groups ih =>
    rw [ConditionGroup.checks_mk] at h
    have hdirect : ∀ c ∈ conditions, c.fault? options.onUnsupported = none := by
      intro c hc
      exact h (.condition c) (List.mem_cons_of_mem _
        (List.mem_append_left _ (List.mem_map_of_mem hc)))
    have hnested : ∀ g ∈ groups, ∀ check ∈ g.checks (depth + 1),
        check.fault? options = none := by
      intro g hg check hcheck
      exact h check (List.mem_cons_of_mem _
        (List.mem_append_right _ (List.mem_flatMap.mpr ⟨g, hg, hcheck⟩)))
    have htruths : f.holdAll? (((groups.map ConditionGroup.translation).map
        Clause.boolean).map Clause.json) =
          some (groups.map (f.group options.onUnsupported)) := by
      rw [List.map_map, List.map_map]
      exact f.holdAll?_map fun g hg => ih g hg (hnested g hg)
    rw [ConditionGroup.translation_mk,
      f.holds?_join operator (f.holdAll?_conditions hdirect) htruths, group, allGroups_eq_all]

/-! ## Queries -/

/-- A boolean clause without clauses holds of everything, and so may be left out. -/
theorem holds?_boolean_of_isEmpty {b : BooleanClause} (h : b.isEmpty = true) :
    f.holds? (Clause.boolean b).json = some true := by
  obtain ⟨must, should, mustNot, filter, minimum⟩ := b
  obtain ⟨rfl, rfl, rfl, rfl⟩ := Buckets.isEmpty_iff.mp h
  rfl

/-- What a builder with nothing but buckets makes the query of a request holds as the buckets
do, also if it leaves them out. -/
theorem holds?_query (b : RequestBuilder) (hcollector : b.collector.isEmpty = true)
    (hdirect : b.direct = none) :
    f.holds? b.query.json = f.holds? (Clause.boolean b.buckets).json := by
  unfold RequestBuilder.query
  cases h : b.buckets.isEmpty with
  | true =>
    rw [f.holds?_boolean_of_isEmpty h, hcollector, hdirect]
    rfl
  | false => rfl

end Facts

/-- The query stands in the body of a request under its key. -/
theorem SearchRequest.get?_query (r : SearchRequest) : r.json.get? "query" = some r.query.json := by
  simp [json, Value.get?, List.lookup_append]

/-- A query that compiles means what its condition tree means: read by the rules of the query
language, the request holds of a document exactly if the tree does, whatever is the case there. -/
theorem compile_preserves_meaning {options : CompileOptions} {q : Query} {r : SearchRequest}
    (h : (q.compile options).result = .ok r) (f : Facts) :
    (r.json.get? "query").bind f.holds? = some (f.query options.onUnsupported q) := by
  rw [Query.result_compile, outcome_eq_ok_iff] at h
  obtain ⟨hfault, rfl⟩ := h
  rw [SearchRequest.get?_query, Option.bind_some]
  have hquery : q.translation.query = RequestBuilder.query
      { q.builder with buckets := (q.conditions.map ConditionGroup.translation).getD {} } := rfl
  rw [hquery, f.holds?_query _ rfl rfl, Facts.query]
  cases hconditions : q.conditions with
  | none => exact f.holds?_boolean_of_isEmpty rfl
  | some g =>
    rw [Query.fault?, hconditions, Option.bind_some, List.findSome?_eq_none_iff] at hfault
    exact f.holds?_translation hfault

/-- Someone named bob or of age, in the state open; one end is left open, and one condition has an
operator without a clause. -/
def Query.bobOrOfAge : Query where
  conditions := some
    { operator := .or
      conditions := [.eq "name" "bob", ⟨"age", " Between", ["18", ""]⟩, ⟨"id", "neq", []⟩]
      groups := [{ conditions := [.eq "state" "open"] }] }

/-- The request of that query, without the last condition. -/
def SearchRequest.bobOrOfAge : SearchRequest where
  query := .boolean
    { must := [.boolean { must := [.matchField "state" "open"] }]
      should := [.matchField "name" "bob", .range "age" { gte := some "18" }]
      minimum := some 1 }

/-- The nested group and one of the alternatives are enough. -/
theorem compile_preserves_meaning_bobOrOfAge :
    (Query.bobOrOfAge.compile { onUnsupported := .skip }).result = .ok .bobOrOfAge ∧
    (SearchRequest.bobOrOfAge.json.get? "query").bind
      (Facts.holds? ⟨fun field _ => field = "state", fun _ => true, fun _ _ _ => true⟩) =
        some true := by
  have h : (Query.bobOrOfAge.compile { onUnsupported := .skip }).result = .ok .bobOrOfAge := rfl
  exact ⟨h, compile_preserves_meaning h _⟩

end SearchQuery
