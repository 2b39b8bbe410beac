import SearchQuery.Proofs.Json.Reading
import SearchQuery.Request.Writer

/-!
# What the rendering of a request keeps

A request is rendered with everything it holds but for two settings without effect: the minimum of
a boolean clause in which nothing should hold, and an empty fuzziness. `Clause.normal` is a clause
without them.

The members of an object that may be left out have different keys, so each of them is found again
under its key.

Main statements: `Clause.json_eq_iff`, `SearchRequest.json_eq_iff`, `SearchRequest.text_eq_iff`.
-/

namespace SearchQuery

open Json

/-! ## Leaves -/

/-- Lists with the same images under one function have the same images under another that tells
no more of each item. -/
theorem map_eq_map_of_forall {α β γ : Type} {f : α → β} {g : α → γ} {xs ys : List α}
    (hfg : ∀ x ∈ xs, ∀ y, f x = f y → g x = g y) (h : xs.map f = ys.map f) :
    xs.map g = ys.map g := by
  induction xs generalizing ys with
  | nil =>
    have hnil : ys = [] := List.map_eq_nil_iff.mp h.symm
    rw [hnil]
  | cons x xs ih =>
    obtain ⟨y, others, rfl, hxy, hrest⟩ := List.map_eq_cons_iff.mp h.symm
    have hhead : g x = g y := hfg x List.mem_cons_self y hxy.symm
    have htail : xs.map g = others.map g :=
      ih (fun z hz => hfg z (List.mem_cons_of_mem x hz)) hrest.symm
    rw [List.map_cons, List.map_cons, hhead, htail]

theorem Json.Value.int_natCast_inj {m n : Nat} (h : Value.int m = Value.int n) : m = n :=
  Int.ofNat.inj (Number.integer.inj (Value.number.inj h))

theorem Json.Value.strings_inj {xs ys : List String}
    (h : Value.strings xs = Value.strings ys) : xs = ys :=
  (List.map_inj_right fun _ _ => Value.string.inj).mp (Value.array.inj h)

theorem map_string_inj {x y : Option String} (h : x.map Value.string = y.map Value.string) :
    x = y :=
  Option.map_injective (fun _ _ => Value.string.inj) h

/-- A list of items is known from its member, also if that is left out. -/
theorem listValue_inj {xs ys : List Value}
    (h : (if xs.isEmpty then none else some (Value.array xs)) =
      if ys.isEmpty then none else some (Value.array ys)) : xs = ys := by
  cases xs <;> cases ys <;> simp_all

/-- The bounds of a range are rendered with nothing lost. -/
theorem Bounds.json_inj {a b : Bounds} (h : a.json = b.json) : a = b := by
  have hlookup (key : String) := congrArg (List.lookup key) (Value.object.inj h)
  have hgte : a.gte = b.gte :=
    map_string_inj (by simpa [List.lookup_append] using hlookup "gte")
  have hlte : a.lte = b.lte :=
    map_string_inj (by simpa [List.lookup_append] using hlookup "lte")
  have hgt : a.gt = b.gt :=
    map_string_inj (by simpa [List.lookup_append] using hlookup "gt")
  have hlt : a.lt = b.lt :=
    map_string_inj (by simpa [List.lookup_append] using hlookup "lt")
  rcases a with ⟨gte, lte, gt, lt⟩
  rcases b with ⟨gte', lte', gt', lt'⟩
  subst hgte hlte hgt hlt
  rfl

/-! ## Clauses -/

namespace Clause

/-- A clause without the settings that have no effect. -/
def normal : Clause → Clause
  | .multiMatch text fields fuzziness => .multiMatch text fields (fuzziness.filter (· ≠ ""))
  | .boolean ⟨must, should, mustNot, filter, minimum⟩ =>
    .boolean ⟨normalAll must, normalAll should, normalAll mustNot, normalAll filter,
      if should.isEmpty then none else minimum⟩
  | c => c
where
  /-- Several clauses without these settings. -/
  normalAll : List Clause → List Clause
    | [] => []
    | c :: rest => c.normal :: normalAll rest

theorem normalAll_eq_map (clauses : List Clause) :
    normal.normalAll clauses = clauses.map normal :=
  eq_map_of_cons rfl (fun _ _ => rfl) clauses

theorem normal_boolean (b : BooleanClause) :
    (boolean b).normal =
      .boolean ⟨b.must.map normal, b.should.map normal, b.mustNot.map normal,
        b.filter.map normal, if b.should.isEmpty then none else b.minimum⟩ := by
  rw [normal, normalAll_eq_map, normalAll_eq_map, normalAll_eq_map, normalAll_eq_map]

theorem json_boolean (b : BooleanClause) :
    (boolean b).json = .object [("bool", .object
      (listMember "must" (b.must.map json) ++ listMember "should" (b.should.map json) ++
        optionalMember "minimum_should_match"
          ((if b.should.isEmpty then none else b.minimum).map fun n => .int n.toNat) ++
        listMember "must_not" (b.mustNot.map json) ++
        listMember "filter" (b.filter.map json)))] := by
  rw [json, jsonAll_eq_map, jsonAll_eq_map, jsonAll_eq_map, jsonAll_eq_map]

/-- The settings without effect are not rendered. -/
theorem json_normal (c : Clause) : c.normal.json = c.json := by
  induction c with
  | boolean must should mustNot filter minimum hmust hshould hmustNot hfilter =>
    have hmap {clauses : List Clause} (h : ∀ c ∈ clauses, c.normal.json = c.json) :
        (clauses.map normal).map json = clauses.map json := by
      rw [List.map_map]
      exact List.map_congr_left h
    rw [normal_boolean, json_boolean, json_boolean]
    simp only [hmap hmust, hmap hshould, hmap hmustNot, hmap hfilter, List.isEmpty_map]
    cases should.isEmpty <;> rfl
  | multiMatch text fields fuzziness =>
    rw [normal, json, json, Option.filter_filter]
    simp only [Bool.and_self]
  | _ => rfl

/-- The members of a boolean clause determine what is in its buckets, and the minimum if it
counts. -/
theorem json_boolean_inj {b d : BooleanClause} (h : (boolean b).json = (boolean d).json) :
    b.must.map json = d.must.map json ∧ b.should.map json = d.should.map json ∧
      b.mustNot.map json = d.mustNot.map json ∧ b.filter.map json = d.filter.map json ∧
      (if b.should.isEmpty then none else b.minimum) =
        if d.should.isEmpty then none else d.minimum := by
  rw [json_boolean, json_boolean] at h
  have hmembers := Value.object.inj (Prod.mk.inj (List.cons.inj (Value.object.inj h)).1).2
  have hlookup (key : String) := congrArg (List.lookup key) hmembers
  refine ⟨?_, ?_, ?_, ?_, ?_⟩
  · exact listValue_inj (by simpa [List.lookup_append] using hlookup "must")
  · exact listValue_inj (by simpa [List.lookup_append] using hlookup "should")
  · exact listValue_inj (by simpa [List.lookup_append] using hlookup "must_not")
  · exact listValue_inj (by simpa [List.lookup_append] using hlookup "filter")
  · have hinj : Function.Injective fun n : UInt32 => Value.int n.toNat :=
      fun m n h => UInt32.toNat_inj.mp (Value.int_natCast_inj h)
    apply Option.map_injective hinj
    simpa [List.lookup_append] using hlookup "minimum_should_match"

theorem normal_eq_of_json_eq {c d : Clause} (h : c.json = d.json) : c.normal = d.normal := by
  -- clauses of different kinds have different keys, so only the kind of the first one is left
  induction c generalizing d with
  | boolean must should mustNot filter minimum ihmust ihshould ihmustNot ihfilter =>
    cases d with
    | boolean b =>
      -- the minimum is compared as it is rendered, since it may differ where it does not count
      obtain ⟨hmust, hshould, hmustNot, hfilter, hminimum⟩ := json_boolean_inj h
      rw [normal_boolean, normal_boolean,
        map_eq_map_of_forall (fun c hc _ => ihmust c hc) hmust,
        map_eq_map_of_forall (fun c hc _ => ihshould c hc) hshould,
        map_eq_map_of_forall (fun c hc _ => ihmustNot c hc) hmustNot,
        map_eq_map_of_forall (fun c hc _ => ihfilter c hc) hfilter, hminimum]
    | _ => simp [json] at h
  | matchAll =>
    cases d with
    | matchAll => rfl
    | _ => simp [json] at h
  | matchField field value =>
    cases d with
    | matchField => simp_all [json]
    | _ => simp [json] at h
  | range field bounds =>
    cases d with
    | range field' bounds' =>
      have hrange : field = field' ∧ bounds.json = bounds'.json := by simpa [json] using h
      rw [hrange.1, Bounds.json_inj hrange.2]
    | _ => simp [json] at h
  | terms field values =>
    cases d with
    | terms field' values' =>
      have hterms : field = field' ∧ Value.strings values = Value.strings values' := by
        simpa [json] using h
      rw [hterms.1, Value.strings_inj hterms.2]
    | _ => simp [json] at h
  | multiMatch text fields fuzziness =>
    cases d with
    | multiMatch text' fields' fuzziness' =>
      obtain ⟨htext, hfields, hfuzziness⟩ : text = text' ∧
          Value.strings fields = Value.strings fields' ∧
          optionalMember "fuzziness" ((fuzziness.filter (· ≠ "")).map .string) =
            optionalMember "fuzziness" ((fuzziness'.filter (· ≠ "")).map .string) := by
        simpa [json] using h
      have hfilter : fuzziness.filter (· ≠ "") = fuzziness'.filter (· ≠ "") :=
        map_string_inj (by simpa using congrArg (List.lookup "fuzziness") hfuzziness)
      rw [normal, normal, htext, Value.strings_inj hfields, hfilter]
    | _ => simp [json] at h
  | present field =>
    cases d with
    | present => simp_all [json]
    | _ => simp [json] at h

/-- Two clauses have one rendering exactly if they are equal but for settings without effect. -/
theorem json_eq_iff {c d : Clause} : c.json = d.json ↔ c.normal = d.normal := by
  refine ⟨normal_eq_of_json_eq, fun h => ?_⟩
  rw [← json_normal c, h, json_normal]

end Clause

/-! ## Requests -/

theorem SortKey.orderJson_inj {k k' : SortKey} (h : k.orderJson = k'.orderJson) : k = k' := by
  rcases k with ⟨field, direction⟩
  rcases k' with ⟨field', direction'⟩
  cases direction <;> cases direction' <;> simp_all [orderJson, SortDirection.keyword]

theorem Projection.json?_inj {p p' : Projection} (h : p.json? = p'.json?) : p = p' := by
  rcases p with _ | names | _ <;> rcases p' with _ | names' | _ <;> try cases h <;> rfl
  -- both name their fields
  have hnames : Value.strings names = Value.strings names' := Option.some.inj h
  rw [Value.strings_inj hnames]

namespace SearchRequest

/-- A request whose query is without the settings that have no effect. -/
def normal (r : SearchRequest) : SearchRequest := { r with query := r.query.normal }

/-- Two requests have one rendering exactly if they are equal but for settings without effect. -/
theorem json_eq_iff {r s : SearchRequest} : r.json = s.json ↔ r.normal = s.normal := by
  constructor
  · intro h
    have hlookup (key : String) := congrArg (List.lookup key) (Value.object.inj h)
    have hword : Function.Injective fun n : UInt64 => Value.int n.toNat :=
      fun m n h => UInt64.toNat_inj.mp (Value.int_natCast_inj h)
    have hsize : r.size = s.size :=
      Option.map_injective hword
        (by simpa [List.lookup_append, List.lookup_cons] using hlookup "size")
    have hstart : r.start = s.start :=
      Option.map_injective hword
        (by simpa [List.lookup_append, List.lookup_cons] using hlookup "from")
    have hprojection : r.projection = s.projection :=
      Projection.json?_inj (by simpa [List.lookup_append, List.lookup_cons] using hlookup "_source")
    have hsort : r.sort = s.sort := by
      have hkeys : r.sort.map SortKey.orderJson = s.sort.map SortKey.orderJson :=
        listValue_inj (by simpa [List.lookup_append, List.lookup_cons] using hlookup "sort")
      exact (List.map_inj_right fun _ _ => SortKey.orderJson_inj).mp hkeys
    have hquery : r.query.normal = s.query.normal :=
      Clause.json_eq_iff.mp (by simpa [List.lookup_append, List.lookup_cons] using hlookup "query")
    rw [normal, normal, hsize, hstart, hprojection, hsort, hquery]
  · intro h
    have hparts := SearchRequest.mk.inj h
    have hquery : r.query.json = s.query.json := Clause.json_eq_iff.mpr hparts.2.2.2.2
    rw [json, json, hparts.1, hparts.2.1, hparts.2.2.1, hparts.2.2.2.1, hquery]

end SearchRequest

/-! ## No floats -/

namespace Json

theorem areExact_iff {items : List Value} : AreExact items ↔ ∀ v ∈ items, v.IsExact := by
  induction items with
  | nil => simp [AreExact]
  | cons v rest ih => rw [AreExact, ih, List.forall_mem_cons]

theorem haveExact_append {members others : List (String × Value)} :
    HaveExact (members ++ others) ↔ HaveExact members ∧ HaveExact others := by
  induction members with
  | nil => simp [HaveExact]
  | cons m rest ih =>
    rcases m with ⟨key, v⟩
    rw [List.cons_append, HaveExact, HaveExact, ih, and_assoc]

theorem haveExact_optionalMember {key : String} {v : Option Value} :
    HaveExact (optionalMember key v) ↔ ∀ x, v = some x → x.IsExact := by
  cases v <;> simp [optionalMember, HaveExact]

theorem haveExact_listMember {key : String} {items : List Value} :
    HaveExact (listMember key items) ↔ ∀ v ∈ items, v.IsExact := by
  cases items <;> simp [listMember, HaveExact, Value.IsExact, areExact_iff]

theorem Value.isExact_array {α : Type} {f : α → Value} {xs : List α}
    (h : ∀ x ∈ xs, (f x).IsExact) : (array (xs.map f)).IsExact :=
  areExact_iff.mpr (List.forall_mem_map.mpr h)

theorem Value.isExact_strings (xs : List String) : (Value.strings xs).IsExact :=
  isExact_array fun _ _ => trivial

theorem Value.isExact_signed (x : Int64) : (Value.int x.toInt).IsExact := by
  refine Or.inl ?_
  rw [signed?_eq_some_iff.mpr rfl]
  rfl

theorem Value.isExact_word (n : UInt64) : (Value.int n.toNat).IsExact := by
  have hword : (unsigned? n.toNat).isSome := by
    rw [unsigned?_toNat]
    rfl
  exact Or.inr hword

end Json

theorem Bounds.isExact_json (b : Bounds) : b.json.IsExact := by
  have hstring (x : Option String) : ∀ v, x.map Value.string = some v → v.IsExact := by
    intro v hv
    obtain ⟨s, -, rfl⟩ := Option.map_eq_some_iff.mp hv
    trivial
  show HaveExact (_ ++ _ ++ _ ++ _)
  simp only [haveExact_append, haveExact_optionalMember]
  exact ⟨⟨⟨hstring b.gte, hstring b.lte⟩, hstring b.gt⟩, hstring b.lt⟩

/-- No clause holds a float. -/
theorem Clause.isExact_json (c : Clause) : c.json.IsExact := by
  induction c with
  | matchAll => exact ⟨trivial, trivial⟩
  | matchField field value => exact ⟨⟨trivial, trivial⟩, trivial⟩
  | range field bounds => exact ⟨⟨bounds.isExact_json, trivial⟩, trivial⟩
  | terms field values => exact ⟨⟨Value.isExact_strings values, trivial⟩, trivial⟩
  | multiMatch text fields fuzziness =>
    refine ⟨⟨trivial, Value.isExact_strings fields, ?_⟩, trivial⟩
    refine haveExact_optionalMember.mpr fun v hv => ?_
    obtain ⟨s, -, rfl⟩ := Option.map_eq_some_iff.mp hv
    trivial
  | present field => exact ⟨⟨trivial, trivial⟩, trivial⟩
  | boolean must should mustNot filter minimum hmust hshould hmustNot hfilter =>
    have hbucket {clauses : List Clause} (h : ∀ c ∈ clauses, c.json.IsExact) :
        ∀ v ∈ clauses.map json, v.IsExact :=
      List.forall_mem_map.mpr h
    rw [json_boolean]
    refine ⟨?_, trivial⟩
    show HaveExact (_ ++ _ ++ _ ++ _ ++ _)
    simp only [haveExact_append, haveExact_listMember, haveExact_optionalMember]
    refine ⟨⟨⟨⟨hbucket hmust, hbucket hshould⟩, ?_⟩, hbucket hmustNot⟩, hbucket hfilter⟩
    intro v hv
    obtain ⟨n, -, rfl⟩ := Option.map_eq_some_iff.mp hv
    -- a short word is a long one
    have hlong := Value.isExact_word n.toUInt64
    rwa [UInt32.toNat_toUInt64] at hlong

/-- No request holds a float, so that its text can be read back. -/
theorem SearchRequest.isExact_json (r : SearchRequest) : r.json.IsExact := by
  have hword (x : Option UInt64) :
      ∀ v, (x.map fun n => Value.int n.toNat) = some v → v.IsExact := by
    intro v hv
    obtain ⟨n, -, rfl⟩ := Option.map_eq_some_iff.mp hv
    exact Value.isExact_word n
  have hprojection : ∀ v, r.projection.json? = some v → v.IsExact := by
    intro v hv
    cases hp : r.projection with
    | all => simp [hp, Projection.json?] at hv
    | fields names =>
      obtain rfl : Value.strings names = v := by simpa [hp, Projection.json?] using hv
      exact Value.isExact_strings names
    | noSource =>
      obtain rfl : Value.bool false = v := by simpa [hp, Projection.json?] using hv
      trivial
  have hsort : ∀ v ∈ r.sort.map SortKey.orderJson, v.IsExact :=
    List.forall_mem_map.mpr fun _ _ => ⟨⟨trivial, trivial⟩, trivial⟩
  show HaveExact (_ ++ _ ++ _ ++ _ ++ _)
  simp only [haveExact_append, haveExact_listMember, haveExact_optionalMember]
  exact ⟨⟨⟨⟨hword r.size, hword r.start⟩, hprojection⟩, hsort⟩, r.query.isExact_json, trivial⟩

/-- In either layout two requests have one text exactly if they are equal but for settings without
effect. -/
theorem SearchRequest.text_eq_iff (l : Layout) {r s : SearchRequest} :
    r.text l = s.text l ↔ r.normal = s.normal := by
  rw [← json_eq_iff]
  constructor
  · intro h
    exact Value.text_inj l r.isExact_json s.isExact_json h
  · intro h
    rw [text, text, h]

/-- Whichever layout two requests are printed in, the texts are the same exactly if the requests
are equal but for settings without effect; so the layout does not tell requests apart. -/
theorem SearchRequest.texts_eq_iff_normal_eq (r s : SearchRequest) :
    (r.text .compact = s.text .compact ↔ r.normal = s.normal) ∧
      (r.normal = s.normal ↔ r.text .indented = s.text .indented) :=
  ⟨text_eq_iff .compact, (text_eq_iff .indented).symm⟩

end SearchQuery
