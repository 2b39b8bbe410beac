import SearchQuery.Proofs.Json.Nesting
import SearchQuery.Proofs.NormalForm

/-!
# Reading a request back

No object of a request repeats a key, so its text is read back as the very same value if the
reader has room for its containers. A level of nested groups takes three of them: a clause, its
body and a bucket.

Main statement: `compiled_text_reads_back`.
-/

namespace SearchQuery

open Json

/-! ## What a rendering holds -/

section
variable {P : Value → Prop}

/-- The bounds of a range are strings. -/
theorem Bounds.forall_mem_children (b : Bounds) (hstring : ∀ s, P (.string s)) :
    ∀ v ∈ b.json.children, P v := by
  have hbound (x : Option String) : ∀ v, x.map Value.string = some v → P v := by
    intro v hv
    obtain ⟨s, -, rfl⟩ := Option.map_eq_some_iff.mp hv
    exact hstring s
  refine List.forall_mem_map.mpr ?_
  simp only [List.forall_mem_append, forall_mem_optionalMember]
  exact ⟨⟨⟨hbound b.gte, hbound b.lte⟩, hbound b.gt⟩, hbound b.lt⟩

/-- The members of a boolean clause, as they are rendered. -/
def Buckets.json (b : BooleanClause) : Value :=
  .object (listMember "must" (b.must.map Clause.json) ++
    listMember "should" (b.should.map Clause.json) ++
    optionalMember "minimum_should_match"
      ((if b.should.isEmpty then none else b.minimum).map fun n => .int n.toNat) ++
    listMember "must_not" (b.mustNot.map Clause.json) ++
    listMember "filter" (b.filter.map Clause.json))

/-- A boolean clause holds its buckets and a number. -/
theorem Buckets.forall_mem_children (b : BooleanClause) (hint : ∀ n, P (.int n))
    (hmust : P (.array (b.must.map Clause.json))) (hshould : P (.array (b.should.map Clause.json)))
    (hmustNot : P (.array (b.mustNot.map Clause.json)))
    (hfilter : P (.array (b.filter.map Clause.json))) : ∀ v ∈ b.json.children, P v := by
  refine List.forall_mem_map.mpr ?_
  simp only [List.forall_mem_append, forall_mem_optionalMember, forall_mem_listMember]
  refine ⟨⟨⟨⟨fun _ => hmust, fun _ => hshould⟩, ?_⟩, fun _ => hmustNot⟩, fun _ => hfilter⟩
  intro v hv
  obtain ⟨n, -, rfl⟩ := Option.map_eq_some_iff.mp hv
  exact hint n.toNat

/-- A request holds numbers, a projection, its sort keys and its query. -/
theorem SearchRequest.forall_mem_children (r : SearchRequest) (hint : ∀ n, P (.int n))
    (hstrings : ∀ xs, P (.strings xs)) (hbool : ∀ b, P (.bool b))
    (hsort : P (.array (r.sort.map SortKey.orderJson))) (hquery : P r.query.json) :
    ∀ v ∈ r.json.children, P v := by
  have hword (x : Option UInt64) :
      ∀ v, (x.map fun n => Value.int n.toNat) = some v → P v := by
    intro v hv
    obtain ⟨n, -, rfl⟩ := Option.map_eq_some_iff.mp hv
    exact hint n.toNat
  have hprojection : ∀ v, r.projection.json? = some v → P v := by
    intro v hv
    cases hp : r.projection with
    | all => simp [hp, Projection.json?] at hv
    | fields names =>
      obtain rfl : Value.strings names = v := by simpa [hp, Projection.json?] using hv
      exact hstrings names
    | noSource =>
      obtain rfl : Value.bool false = v := by simpa [hp, Projection.json?] using hv
      exact hbool false
  refine List.forall_mem_map.mpr ?_
  simp only [List.forall_mem_append, forall_mem_optionalMember, forall_mem_listMember,
    List.forall_mem_singleton]
  exact ⟨⟨⟨⟨hword r.size, hword r.start⟩, hprojection⟩, fun _ => hsort⟩, hquery⟩

end

theorem Clause.json_boolean_eq (b : BooleanClause) :
    (boolean b).json = .object [("bool", b.json)] :=
  json_boolean b

/-! ## Keys -/

theorem Bounds.keysDistinct_json (b : Bounds) : b.json.KeysDistinct := by
  have hnames : ["gte", "lte", "gt", "lt"].Nodup := by decide
  refine .intro (hnames.sublist ?_) (b.forall_mem_children Value.keysDistinct_string)
  simp only [json, Value.keys, List.map_append]
  exact (((keys_optionalMember_sublist ..).append (keys_optionalMember_sublist ..)).append
    (keys_optionalMember_sublist ..)).append (keys_optionalMember_sublist ..)

theorem Buckets.keysDistinct_json {b : BooleanClause}
    (hmust : ∀ c ∈ b.must, c.json.KeysDistinct) (hshould : ∀ c ∈ b.should, c.json.KeysDistinct)
    (hmustNot : ∀ c ∈ b.mustNot, c.json.KeysDistinct)
    (hfilter : ∀ c ∈ b.filter, c.json.KeysDistinct) : b.json.KeysDistinct := by
  have hnames :
    ["must", "should", "minimum_should_match", "must_not", "filter"].Nodup := by decide
  have hbucket {clauses : List Clause} (h : ∀ c ∈ clauses, c.json.KeysDistinct) :
      (Value.array (clauses.map Clause.json)).KeysDistinct :=
    Value.keysDistinct_array_iff.mpr (List.forall_mem_map.mpr h)
  refine .intro (hnames.sublist ?_) (b.forall_mem_children Value.keysDistinct_int
    (hbucket hmust) (hbucket hshould) (hbucket hmustNot) (hbucket hfilter))
  simp only [json, Value.keys, List.map_append]
  exact ((((keys_listMember_sublist ..).append (keys_listMember_sublist ..)).append
    (keys_optionalMember_sublist ..)).append (keys_listMember_sublist ..)).append
    (keys_listMember_sublist ..)

theorem Clause.keysDistinct_json (c : Clause) : c.json.KeysDistinct := by
  induction c with
  | matchAll => exact Value.keysDistinct_singleton (.intro List.nodup_nil nofun)
  | matchField field value =>
    exact Value.keysDistinct_singleton
      (Value.keysDistinct_singleton (Value.keysDistinct_string value))
  | range field bounds =>
    exact Value.keysDistinct_singleton (Value.keysDistinct_singleton bounds.keysDistinct_json)
  | terms field values =>
    exact Value.keysDistinct_singleton
      (Value.keysDistinct_singleton (Value.keysDistinct_strings values))
  | multiMatch text fields fuzziness =>
    refine Value.keysDistinct_singleton (Value.keysDistinct_object_iff.mpr ⟨?_, ?_⟩)
    · have hnames : ["query", "fields", "fuzziness"].Nodup := by decide
      refine hnames.sublist ?_
      rw [List.map_append]
      exact (List.Sublist.refl ["query", "fields"]).append (keys_optionalMember_sublist ..)
    · simp only [List.forall_mem_append, forall_mem_optionalMember, List.forall_mem_cons]
      refine ⟨⟨Value.keysDistinct_string text, Value.keysDistinct_strings fields, nofun⟩, ?_⟩
      intro v hv
      obtain ⟨s, -, rfl⟩ := Option.map_eq_some_iff.mp hv
      exact Value.keysDistinct_string s
  | present field =>
    exact Value.keysDistinct_singleton
      (Value.keysDistinct_singleton (Value.keysDistinct_string field))
  | boolean must should mustNot filter minimum hmust hshould hmustNot hfilter =>
    rw [json_boolean_eq]
    exact Value.keysDistinct_singleton
      (Buckets.keysDistinct_json hmust hshould hmustNot hfilter)

/-- No object of a request repeats a key. -/
theorem SearchRequest.keysDistinct_json (r : SearchRequest) : r.json.KeysDistinct := by
  have hnames : ["size", "from", "_source", "sort", "query"].Nodup := by decide
  have hsort : (Value.array (r.sort.map SortKey.orderJson)).KeysDistinct :=
    Value.keysDistinct_array_iff.mpr <| List.forall_mem_map.mpr fun k _ =>
      Value.keysDistinct_singleton
        (Value.keysDistinct_singleton (Value.keysDistinct_string k.direction.keyword))
  refine .intro (hnames.sublist ?_) (r.forall_mem_children Value.keysDistinct_int
    Value.keysDistinct_strings (fun _ => Value.keysDistinct_of_nesting_eq_zero rfl) hsort
    r.query.keysDistinct_json)
  simp only [json, Value.keys, List.map_append]
  exact ((((keys_optionalMember_sublist ..).append (keys_optionalMember_sublist ..)).append
    (keys_optionalMember_sublist ..)).append (keys_listMember_sublist ..)).append
    (List.Sublist.refl ["query"])

/-- The text of a request is read back exactly if there is room for its containers. -/
theorem SearchRequest.ofText?_text (l : Layout) (room : Nat) (r : SearchRequest) :
    Value.ofText? room (r.text l) = if r.json.nesting ≤ room then some r.json else none :=
  Value.ofText?_text l r.isExact_json r.keysDistinct_json room

/-! ## How deep clauses nest -/

theorem Bounds.nesting_json_le (b : Bounds) : b.json.nesting ≤ 1 :=
  Value.nesting_le_of_children (b.forall_mem_children fun _ => Nat.le_refl 0)

namespace Buckets

/-- The clauses of all four buckets. -/
def clauses (b : BooleanClause) : List Clause := b.must ++ b.should ++ b.mustNot ++ b.filter

/-- Whatever the operator, the buckets hold the direct clauses and the nested groups. -/
theorem mem_clauses_join {o : GroupOperator} {direct : List Clause} {nested : List BooleanClause}
    {c : Clause} :
    c ∈ (o.join direct nested).clauses ↔ c ∈ direct ∨ c ∈ nested.map Clause.boolean := by
  cases o with
  | and => simp [GroupOperator.join, clauses]
  | or => simp [GroupOperator.join, clauses, or_comm]

end Buckets

namespace Clause

/-- A clause, its body and a bucket are three containers around what is in the buckets. -/
theorem nesting_boolean_le {b : BooleanClause} {n : Nat}
    (h : ∀ c ∈ b.clauses, c.json.nesting ≤ n) : (boolean b).json.nesting ≤ n + 3 := by
  have hbucket {bucket : List Clause} (hmem : ∀ c ∈ bucket, c ∈ b.clauses) :
      (Value.array (bucket.map json)).nesting ≤ n + 1 :=
    Value.nesting_array_le_iff.mpr (List.forall_mem_map.mpr fun c hc => h c (hmem c hc))
  rw [json_boolean_eq, Value.nesting_singleton, Nat.add_le_add_iff_right]
  refine Value.nesting_le_of_children
    (b.forall_mem_children (fun _ => Nat.zero_le _) (hbucket ?_) (hbucket ?_) (hbucket ?_)
      (hbucket ?_))
  · intro c hc
    simp [Buckets.clauses, hc]
  · intro c hc
    simp [Buckets.clauses, hc]
  · intro c hc
    simp [Buckets.clauses, hc]
  · intro c hc
    simp [Buckets.clauses, hc]

/-- What must match stands in three containers at least. -/
theorem lt_nesting_boolean_of_mem_must {b : BooleanClause} {c : Clause} (h : c ∈ b.must) :
    c.json.nesting + 3 ≤ (boolean b).json.nesting := by
  have hbucket : c.json.nesting < (Value.array (b.must.map json)).nesting :=
    Value.nesting_lt_of_mem_children (List.mem_map_of_mem h)
  -- an empty bucket would have been left out
  have hne : b.must.map json ≠ [] := by
    rw [Ne, List.map_eq_nil_iff]
    exact List.ne_nil_of_mem h
  rw [json_boolean, Value.nesting_singleton]
  refine Nat.succ_le_succ (Nat.le_trans (Nat.succ_le_succ hbucket) ?_)
  refine Value.nesting_lt_of_mem_children (List.mem_map.mpr ⟨("must", _), ?_, rfl⟩)
  simp only [List.mem_append]
  refine Or.inl (Or.inl (Or.inl (Or.inl ?_)))
  cases hmust : b.must.map json with
  | nil => exact absurd hmust hne
  | cons v rest => exact List.mem_singleton.mpr rfl

end Clause

/-- The clause of a condition is a match or a range, and opens three containers at most. -/
theorem Condition.nesting_clause_le {c : Condition} {clause : Clause}
    (h : c.clause = .ok clause) : clause.json.nesting ≤ 3 := by
  rcases clause_eq_match_or_range h with ⟨value, rfl⟩ | ⟨bounds, rfl⟩
  · rw [Clause.json, Value.nesting_singleton, Value.nesting_singleton]
    show 2 ≤ 3
    decide
  · rw [Clause.json, Value.nesting_singleton, Value.nesting_singleton]
    exact Nat.add_le_add_right bounds.nesting_json_le 2

/-! ## How deep groups nest -/

namespace ConditionGroup

/-- The levels of a group and the groups nested in it. -/
def depth : ConditionGroup → Nat
  | ⟨_, _, groups⟩ => depthAll groups + 1
where
  /-- The levels of the deepest of several groups. -/
  depthAll : List ConditionGroup → Nat
    | [] => 0
    | g :: rest => max g.depth (depthAll rest)

theorem depthAll_le_iff {groups : List ConditionGroup} {n : Nat} :
    depth.depthAll groups ≤ n ↔ ∀ g ∈ groups, g.depth ≤ n := by
  induction groups with
  | nil => simp [depth.depthAll]
  | cons g rest ih => rw [depth.depthAll, Nat.max_le, ih, List.forall_mem_cons]

theorem depth_le_iff {operator : GroupOperator} {conditions : List Condition}
    {groups : List ConditionGroup} {n : Nat} :
    depth ⟨operator, conditions, groups⟩ ≤ n + 1 ↔ ∀ g ∈ groups, g.depth ≤ n := by
  rw [depth, Nat.add_le_add_iff_right, depthAll_le_iff]

/-- A group at some depth of which no check fails ends within the limit. -/
theorem depth_le_of_checks {options : CompileOptions} {g : ConditionGroup} {start : Nat}
    (h : ∀ check ∈ g.checks start, check.fault? options = none) :
    g.depth + start ≤ options.maxDepth.toNat + 1 := by
  induction g generalizing start with
  | group operator conditions groups ih =>
    simp only [checks_mk, List.forall_mem_cons, List.forall_mem_append] at h
    obtain ⟨henter, -, hgroups⟩ := h
    have hstart : start ≤ options.maxDepth.toNat := by
      simpa [Check.fault?] using henter
    -- the groups nested in this one start a level deeper
    have hnested : ∀ g ∈ groups, g.depth ≤ options.maxDepth.toNat - start := by
      intro g hg
      have hdepth := ih g hg fun check hcheck =>
        hgroups check (List.mem_flatMap.mpr ⟨g, hg, hcheck⟩)
      omega
    have hdepth : depth ⟨operator, conditions, groups⟩ ≤ options.maxDepth.toNat - start + 1 :=
      depth_le_iff.mpr hnested
    omega

/-- A level of groups takes three containers, and a condition in the last one three more. -/
theorem nesting_boolean_translation_le (g : ConditionGroup) :
    (Clause.boolean g.translation).json.nesting ≤ 3 * g.depth + 3 := by
  induction g with
  | group operator conditions groups ih =>
    obtain ⟨below, hbelow⟩ : ∃ n, depth.depthAll groups = n := ⟨_, rfl⟩
    rw [translation_mk, depth, hbelow, Nat.mul_succ]
    refine Clause.nesting_boolean_le fun c hc => ?_
    rcases Buckets.mem_clauses_join.mp hc with hdirect | hnested
    · obtain ⟨condition, -, hcondition⟩ := List.mem_filterMap.mp hdirect
      have hclause := Condition.nesting_clause_le (Condition.clause?_eq_some_iff.mp hcondition)
      omega
    · rw [List.map_map] at hnested
      obtain ⟨g, hg, rfl⟩ := List.mem_map.mp hnested
      have hnesting : (Clause.boolean g.translation).json.nesting ≤ 3 * g.depth + 3 := ih g hg
      have hdepth : g.depth ≤ below := depthAll_le_iff.mp (Nat.le_of_eq hbelow) g hg
      show (Clause.boolean g.translation).json.nesting ≤ 3 * below + 3
      omega

end ConditionGroup

namespace Query

/-- The levels of a query's condition tree; without one there are none. -/
def depth (q : Query) : Nat := (q.conditions.map ConditionGroup.depth).getD 0

/-- What compiles is no deeper than the limit. -/
theorem depth_le_of_compile {options : CompileOptions} {q : Query} {r : SearchRequest}
    (h : (q.compile options).result = .ok r) : q.depth ≤ options.maxDepth.toNat := by
  rw [result_compile, outcome_eq_ok_iff] at h
  unfold depth
  cases hq : q.conditions with
  | none => exact Nat.zero_le _
  | some g =>
    have hchecks : (g.checks 1).findSome? (Check.fault? options) = none := by
      simpa [fault?, hq] using h.1
    have hdepth := g.depth_le_of_checks (List.findSome?_eq_none_iff.mp hchecks)
    exact Nat.le_of_succ_le_succ hdepth

/-- A query's request opens one container around the condition tree, and four if there is none. -/
theorem nesting_translation_le (q : Query) : q.translation.json.nesting ≤ 3 * q.depth + 4 := by
  have hstrings (xs : List String) : (Value.strings xs).nesting ≤ 3 * q.depth + 3 := by
    have hxs := Value.nesting_strings_le xs
    omega
  have hsort : (Value.array (q.translation.sort.map SortKey.orderJson)).nesting ≤
      3 * q.depth + 3 := by
    refine Value.nesting_array_le_iff.mpr (List.forall_mem_map.mpr fun k _ => ?_)
    rw [SortKey.orderJson, Value.nesting_singleton, Value.nesting_singleton]
    exact Nat.le_add_left 2 (3 * q.depth)
  have hquery : q.translation.query.json.nesting ≤ 3 * q.depth + 3 := by
    rw [query_translation]
    cases hq : q.tree? with
    | none => exact Nat.le_trans (by decide) (Nat.le_add_left 3 (3 * q.depth))
    | some g =>
      have hconditions : q.conditions = some g := Option.eq_some_of_filter_eq_some hq
      rw [depth, hconditions]
      exact g.nesting_boolean_translation_le
  exact Value.nesting_le_of_children (q.translation.forall_mem_children
    (fun _ => Nat.zero_le _) hstrings (fun _ => Nat.zero_le _) hsort hquery)

end Query

/-- A request is a container around its query. -/
theorem SearchRequest.nesting_query_lt (r : SearchRequest) :
    r.query.json.nesting < r.json.nesting := by
  refine Value.nesting_lt_of_mem_children (List.mem_map.mpr ⟨("query", r.query.json), ?_, rfl⟩)
  exact List.mem_append_right _ (List.mem_singleton.mpr rfl)

/-! ## A tree that nests too deep -/

namespace ConditionGroup

/-- One condition with so many groups around its own. -/
def wrapped : Nat → ConditionGroup
  | 0 => { conditions := [.eq "name" "bob"] }
  | n + 1 => { groups := [wrapped n] }

/-- Nothing but its depth can be wrong with it. -/
theorem fault?_checks_wrapped {options : CompileOptions} {n start : Nat}
    (h : n + start ≤ options.maxDepth.toNat) :
    ((wrapped n).checks start).findSome? (Check.fault? options) = none := by
  induction n generalizing start with
  | zero =>
    have henter : ¬options.maxDepth.toNat < start := by omega
    have hcondition : (Condition.eq "name" "bob").fault? options.onUnsupported = none := rfl
    simp [wrapped, checks_mk, Check.fault?, henter, hcondition]
  | succ n ih =>
    have henter : ¬options.maxDepth.toNat < start := by omega
    have hnested : ((wrapped n).checks (start + 1)).findSome? (Check.fault? options) = none :=
      ih (by omega)
    simpa [wrapped, checks_mk, Check.fault?, henter] using hnested

theorem nesting_translation_wrapped (n : Nat) :
    3 * n + 5 ≤ (Clause.boolean (wrapped n).translation).json.nesting := by
  induction n with
  | zero =>
    have hmust : Clause.matchField "name" "bob" ∈ (wrapped 0).translation.must :=
      List.mem_singleton.mpr rfl
    exact Clause.lt_nesting_boolean_of_mem_must hmust
  | succ n ih =>
    have hmust : Clause.boolean (wrapped n).translation ∈ (wrapped (n + 1)).translation.must := by
      rw [wrapped, translation_mk]
      exact List.mem_singleton.mpr rfl
    have hnesting := Clause.lt_nesting_boolean_of_mem_must hmust
    omega

end ConditionGroup

namespace Query

/-- A query for one condition with so many groups around its own. -/
def wrapped (n : Nat) : Query where
  conditions := some (.wrapped n)

theorem result_compile_wrapped {options : CompileOptions} {n : Nat}
    (h : n < options.maxDepth.toNat) :
    ((wrapped n).compile options).result = .ok (wrapped n).translation := by
  rw [result_compile, outcome_eq_ok_iff]
  exact ⟨ConditionGroup.fault?_checks_wrapped h, rfl⟩

theorem lt_nesting_translation_wrapped (n : Nat) :
    3 * n + 5 < (wrapped n).translation.json.nesting := by
  have hquery : (wrapped n).translation.query =
      .boolean (ConditionGroup.wrapped n).translation := by
    cases n <;> rfl
  have hnesting := ConditionGroup.nesting_translation_wrapped n
  rw [← hquery] at hnesting
  exact Nat.lt_of_le_of_lt hnesting (SearchRequest.nesting_query_lt _)

end Query

/-- A text is read back as what was written, if it has no more than 127 containers open at once.
A compiled query has three a level and four more at most. So up to a limit of 41 levels whatever
compiles is read back, and at each higher one something compiles whose text is refused. -/
theorem compiled_text_reads_back :
    (∀ (r : SearchRequest) (l : Layout), r.json.nesting ≤ 127 →
      Value.ofText? maxOpen (r.text l) = some r.json) ∧
    (∀ options (q : Query) r, (q.compile options).result = .ok r →
      r.json.nesting ≤ 3 * q.depth + 4) ∧
    (∀ options : CompileOptions, options.maxDepth ≤ 41 → ∀ (q : Query) r l,
      (q.compile options).result = .ok r → Value.ofText? maxOpen (r.text l) = some r.json) ∧
    (∀ options : CompileOptions, 41 < options.maxDepth → ∃ (q : Query) (r : SearchRequest),
      (q.compile options).result = .ok r ∧ ∀ l, Value.ofText? maxOpen (r.text l) = none) := by
  have hread (r : SearchRequest) (l : Layout) (h : r.json.nesting ≤ 127) :
      Value.ofText? maxOpen (r.text l) = some r.json := by
    rw [SearchRequest.ofText?_text]
    exact if_pos h
  have hnesting (options) (q : Query) (r) (h : (q.compile options).result = .ok r) :
      r.json.nesting ≤ 3 * q.depth + 4 := by
    rw [Query.result_compile, outcome_eq_ok_iff] at h
    exact h.2 ▸ q.nesting_translation_le
  refine ⟨hread, hnesting, fun options hlimit q r l h => ?_, fun options hlimit => ?_⟩
  · have hlimit' : options.maxDepth.toNat ≤ 41 := hlimit
    have hdepth := Query.depth_le_of_compile h
    have hbound := hnesting options q r h
    exact hread r l (by omega)
  · have hlimit' : 41 < options.maxDepth.toNat := hlimit
    have hdeep := Query.lt_nesting_translation_wrapped 41
    refine ⟨.wrapped 41, _, Query.result_compile_wrapped hlimit', fun l => ?_⟩
    rw [SearchRequest.ofText?_text]
    exact if_neg (by unfold maxOpen; omega)

/-- With 40 groups around its own, a condition stands in the last level that a limit of 41 lets
through. -/
theorem compiled_text_reads_back_wrapped :
    ((Query.wrapped 40).compile { maxDepth := 41 }).result = .ok (Query.wrapped 40).translation ∧
      ∀ l, Value.ofText? maxOpen ((Query.wrapped 40).translation.text l) =
        some (Query.wrapped 40).translation.json := by
  have hcompiles : ((Query.wrapped 40).compile { maxDepth := 41 }).result =
      .ok (Query.wrapped 40).translation :=
    Query.result_compile_wrapped (by decide)
  obtain ⟨-, -, hread, -⟩ := compiled_text_reads_back
  exact ⟨hcompiles, fun l => hread _ (by decide) _ _ l hcompiles⟩

end SearchQuery
