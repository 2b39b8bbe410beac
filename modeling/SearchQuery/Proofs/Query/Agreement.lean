import SearchQuery.CommandLine.Run
import SearchQuery.Proofs.Query.Acceptance

/-!
# Data from a text and from a value

Query data stands in a text of its own, or it is part of a value that has been read already. A text
that denotes a value and repeats no key is the tree of that value, and there is room in it for all
containers of the value; so both readers come to what the value presents.

Main statement: `readers_agree`.
-/

namespace SearchQuery

open Json

/-! ## Texts that denote a value -/

namespace Json

/-- The keys of an object, as far as the text goes. -/
def Members.keys : Members → List (Option String)
  | .member key _ rest => key :: rest.keys
  | _ => []

mutual
/-- No object in the tree repeats a key. -/
def Tree.hasDistinctKeys : Tree → Bool
  | .array items => items.haveDistinctKeys
  | .object members => decide members.keys.Nodup && members.haveDistinctKeys
  | _ => true

/-- No object in one of the items repeats a key. -/
def Items.haveDistinctKeys : Items → Bool
  | .item t rest => t.hasDistinctKeys && rest.haveDistinctKeys
  | _ => true

/-- No object in the value of one of the members repeats a key. -/
def Members.haveDistinctKeys : Members → Bool
  | .member _ t rest => t.hasDistinctKeys && rest.haveDistinctKeys
  | _ => true
end

mutual
/-- A tree that denotes a value is the tree of that value, and there was room for it. -/
theorem Tree.eq_tree_of_value? : ∀ {t : Tree} {room : Nat} {v : Value}, t.hasDistinctKeys = true →
    t.value? room = some v → t = v.tree ∧ v.nesting ≤ room
  | .null, _, _, _, h => by
    obtain rfl := Option.some.inj h
    exact ⟨rfl, Nat.zero_le _⟩
  | .bool _, _, _, _, h => by
    obtain rfl := Option.some.inj h
    exact ⟨rfl, Nat.zero_le _⟩
  | .number _, _, _, _, h => by
    obtain ⟨n, rfl, rfl⟩ := Option.map_eq_some_iff.mp h
    exact ⟨rfl, Nat.zero_le _⟩
  | .string _, _, _, _, h => by
    obtain ⟨s, rfl, rfl⟩ := Option.map_eq_some_iff.mp h
    exact ⟨rfl, Nat.zero_le _⟩
  | .array items, room + 1, _, hkeys, h => by
    obtain ⟨values, hvalues, rfl⟩ := Option.map_eq_some_iff.mp h
    obtain ⟨values, rfl, rfl, hroom⟩ := Items.eq_itemsTree_of_values? hkeys hvalues
    exact ⟨rfl, Nat.succ_le_succ hroom⟩
  | .object members, room + 1, _, hkeys, h => by
    obtain ⟨values, hvalues, rfl⟩ := Option.map_eq_some_iff.mp h
    obtain ⟨hnodup, hmembers⟩ := Bool.and_eq_true_iff.mp hkeys
    obtain ⟨values, rfl, rfl, hroom⟩ :=
      Members.eq_membersTree_of_values? hmembers (by simpa using hnodup) hvalues
    exact ⟨rfl, Nat.succ_le_succ hroom⟩

/-- The values of items come behind those before them. -/
theorem Items.eq_itemsTree_of_values? : ∀ {items : Items} {room : Nat} {before all : List Value},
    items.haveDistinctKeys = true → items.values? room before = some all →
    ∃ values, all = before.reverse ++ values ∧ items = itemsTree values ∧
      itemsNesting values ≤ room
  | .closed, _, _, _, _, h => ⟨[], by simpa [Items.values?] using h.symm, rfl, Nat.zero_le _⟩
  | .item t rest, room, before, _, hkeys, h => by
    rw [Items.values?] at h
    obtain ⟨ht, hitems⟩ := Bool.and_eq_true_iff.mp hkeys
    split at h
    · next v hv =>
      obtain ⟨rfl, hroom⟩ := Tree.eq_tree_of_value? ht hv
      obtain ⟨values, rfl, rfl, hrest⟩ := Items.eq_itemsTree_of_values? hitems h
      exact ⟨v :: values, by simp, rfl, Nat.max_le.mpr ⟨hroom, hrest⟩⟩
    · contradiction

/-- The members of an object come behind those before them, if their keys are new. -/
theorem Members.eq_membersTree_of_values? : ∀ {members : Members} {room : Nat}
    {before all : List (String × Value)}, members.haveDistinctKeys = true →
    (before.map (fun m => some m.1) ++ members.keys).Nodup →
    members.values? room before = some all →
    ∃ values, all = before ++ values ∧ members = membersTree values ∧
      membersNesting values ≤ room
  | .closed, _, _, _, _, _, h => ⟨[], by simpa [Members.values?] using h.symm, rfl, Nat.zero_le _⟩
  | .member key t rest, room, before, _, hkeys, hnew, h => by
    unfold Members.values? at h
    obtain ⟨ht, hmembers⟩ := Bool.and_eq_true_iff.mp hkeys
    split at h
    · next k v hv =>
      -- a key that repeated would take the place of the member before it
      have hk : k ∉ before.map (·.1) := by
        intro hmem
        obtain ⟨m, hm, rfl⟩ := List.mem_map.mp hmem
        exact (List.nodup_append.mp hnew).2.2 _ (List.mem_map_of_mem hm) _ List.mem_cons_self rfl
      rw [setMember_of_notMem v hk] at h
      obtain ⟨rfl, hroom⟩ := Tree.eq_tree_of_value? ht hv
      obtain ⟨values, rfl, rfl, hrest⟩ :=
        Members.eq_membersTree_of_values? hmembers (by simpa [Members.keys] using hnew) h
      exact ⟨(k, v) :: values, by simp, rfl, Nat.max_le.mpr ⟨hroom, hrest⟩⟩
    · contradiction
end

theorem Value.ofText?_eq_some_iff {room : Nat} {text : String} {v : Value} :
    Value.ofText? room text = some v ↔
      (Reading.ofText text).tree.value? room = some v ∧ (Reading.ofText text).ended = true := by
  unfold Value.ofText?
  cases h : (Reading.ofText text).ended <;> simp [h]

end Json

/-! ## The command -/

/-- The command reads a query, compiles it and prints its request. -/
theorem Config.result_run_compile {c : Config} {path : Option String}
    (hc : c.command = .compile path) (text : String) :
    (c.run (some text)).result =
      ((Shape.query.ofText text).mapError RunError.badQuery).bind fun q =>
        ((q.compile c.compileOptions).result.mapError RunError.compile).bind fun r =>
          .ok (r.text c.layout) := by
  unfold run
  simp only [hc, Run.result_bind]
  rfl

/-- What the command prints is the request of the query that it was given. -/
theorem Config.result_run_compile_eq_ok_iff {c : Config} {path : Option String}
    (hc : c.command = .compile path) {text output : String} :
    (c.run (some text)).result = .ok output ↔
      ∃ q, Shape.query.ofText text = .ok q ∧ ∃ r, (q.compile c.compileOptions).result = .ok r ∧
        r.text c.layout = output := by
  rw [result_run_compile hc]
  cases hq : Shape.query.ofText text with
  | error e => simp [Except.mapError, Except.bind]
  | ok q =>
    cases hr : (q.compile c.compileOptions).result with
    | error e => simp [Except.mapError, Except.bind, hr]
    | ok r => simp [Except.mapError, Except.bind, hr]

/-- What it fails with in compiling is what the query fails with. -/
theorem Config.result_run_compile_eq_error_iff {c : Config} {path : Option String}
    (hc : c.command = .compile path) {text : String} {e : CompileError} :
    (c.run (some text)).result = .error (.compile e) ↔
      ∃ q, Shape.query.ofText text = .ok q ∧ (q.compile c.compileOptions).result = .error e := by
  rw [result_run_compile hc]
  cases hq : Shape.query.ofText text with
  | error e => simp [Except.mapError, Except.bind]
  | ok q =>
    cases hr : (q.compile c.compileOptions).result with
    | error e => simp [Except.mapError, Except.bind, hr]
    | ok r => simp [Except.mapError, Except.bind, hr]

/-! ## The readers -/

/-- The text of a value, if no object in it repeats a key, and the value itself are read as the same
data, or neither is data. So the command prints for the text the request of the query that the value
is. -/
theorem readers_agree {text : String} {v : Value} (hvalue : Value.ofText? maxOpen text = some v)
    (hkeys : (Reading.ofText text).tree.hasDistinctKeys = true) :
    (∀ (s : Shape) (a : s.Carrier), s.ofText text = .ok a ↔ s.ofValue v = .ok a) ∧
    ∀ (c : Config) path, c.command = .compile path → ∀ output,
      (c.run (some text)).result = .ok output ↔
        ∃ q, Shape.query.ofValue v = .ok q ∧ ∃ r, (q.compile c.compileOptions).result = .ok r ∧
          r.text c.layout = output := by
  obtain ⟨hdenotes, hended⟩ := Value.ofText?_eq_some_iff.mp hvalue
  obtain ⟨htree, hroom⟩ := Tree.eq_tree_of_value? hkeys hdenotes
  have hread (s : Shape) (a : s.Carrier) : s.ofText text = .ok a ↔ s.ofValue v = .ok a := by
    -- the budget of the text is no smaller than the nesting of the value
    have hpresents : v.tree.read (.text maxOpen) s = .ok a ↔ s.Presents v a :=
      v.isReadAsPresented (.text maxOpen) s a hroom
    rw [Shape.ofText_eq_ok_iff, htree, hpresents, hended, ofValue_eq_ok_iff_presents]
    exact and_iff_left rfl
  refine ⟨hread, fun c path hc output => ?_⟩
  simp only [Config.result_run_compile_eq_ok_iff hc, hread]

/-- Seven documents of someone named bob. -/
def Query.sevenBobs : Query where
  size := 7
  conditions := some { operator := .or, conditions := [.eq "name" "bob"] }

/-- That query as a value, beside a note; its group is an array, and the operator of the group an
object. -/
def Query.sevenBobsValue : Value :=
  .object [("size", .int 7), ("note", .array [.object [("size", .null)]]),
    ("conditions", .array [.object [("or", .null)],
      .array [.array [.string "name", .string "eq", .array [.string "bob"]]]])]

/-- A text of the value; a key in it is spelled with an escape. -/
def Query.sevenBobsText : String :=
  " \x7b\"\\u0073ize\": 7, \"note\": [\x7b\"size\": null\x7d],\n" ++
    "\"conditions\": [\x7b\"or\": null\x7d, [[\"name\", \"eq\", [\"bob\"]]]]\x7d"

/-- The request of the query. -/
def SearchRequest.sevenBobs : SearchRequest where
  size := some 7
  query := .boolean { should := [.matchField "name" "bob"], minimum := some 1 }

/-- Both are read as the query, and the command prints its request for the text. -/
theorem readers_agree_sevenBobs :
    Value.ofText? maxOpen Query.sevenBobsText = some Query.sevenBobsValue ∧
    (Reading.ofText Query.sevenBobsText).tree.hasDistinctKeys = true ∧
    Shape.query.ofValue Query.sevenBobsValue = .ok .sevenBobs ∧
    Shape.query.ofText Query.sevenBobsText = .ok .sevenBobs ∧
    (Config.run { command := .compile none } (some Query.sevenBobsText)).result =
      .ok (SearchRequest.sevenBobs.text .indented) := by
  have hreading : Reading.ofText Query.sevenBobsText = ⟨Query.sevenBobsValue.tree, true⟩ := by
    set_option maxRecDepth 8000 in rfl
  have hvalue : Value.ofText? maxOpen Query.sevenBobsText = some Query.sevenBobsValue := by
    rw [Value.ofText?_eq_some_iff, hreading]
    exact ⟨by rfl, rfl⟩
  have hkeys : (Reading.ofText Query.sevenBobsText).tree.hasDistinctKeys = true := by
    rw [hreading]
    decide
  have hread : Shape.query.ofValue Query.sevenBobsValue = .ok .sevenBobs := by rfl
  have hcompiles : (Query.sevenBobs.compile {}).result = .ok .sevenBobs := by rfl
  obtain ⟨hreaders, hcommand⟩ := readers_agree hvalue hkeys
  exact ⟨hvalue, hkeys, hread, (hreaders .query .sevenBobs).mpr hread,
    (hcommand _ none rfl _).mpr ⟨.sevenBobs, hread, .sevenBobs, hcompiles, rfl⟩⟩

end SearchQuery
