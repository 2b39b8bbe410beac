import SearchQuery.Proofs.Outcome
import SearchQuery.Proofs.Tags

/-!
# What becomes of a condition

A condition is refused for its tag before its operands are counted, and for their number before
they are looked at. Then the tag alone says where each operand goes: one value to match, or the
bounds of a range, of which an empty one is open.

Main statement: `clause_becomes`.
-/

namespace SearchQuery

open Text

/-! ## Tags with a clause -/

/-- The tags of the operators that have a clause. -/
def clauseTags : List String := ["eq", "contains", "between", "lt", "lte", "gt", "gte"]

/-- How many operands go with a tag. -/
def operandCount (tag : String) : Nat := if tag = "between" then 2 else 1

/-- The bounds that the operands of a range go to, in their order. -/
def boundNames (tag : String) : List String := if tag = "between" then ["gte", "lte"] else [tag]

/-- The bounds with these names, each the operand at the same place; none is empty. -/
def Bounds.ofNamed (names operands : List String) : Bounds :=
  let named (name : String) := ((names.zip operands).lookup name).filter (· ≠ "")
  { gte := named "gte", lte := named "lte", gt := named "gt", lt := named "lt" }

/-- The tag of a condition without the blanks around it and in lower case. -/
def Condition.spelled (c : Condition) : String := String.ofList (lower (trim c.operator.toList))

/-- Just the operators with a clause have these tags. -/
theorem mem_clauseTags_iff {tag : String} :
    tag ∈ clauseTags ↔ ∃ o : Operator, o.isSupported = true ∧ o.tag = tag := by
  have htags : clauseTags = (Operator.all.filter Operator.isSupported).map Operator.tag := by
    decide
  rw [htags, List.mem_map]
  refine exists_congr fun o => and_congr_left fun _ => ?_
  rw [List.mem_filter, and_iff_right o.mem_all]

theorem operandCount_tag (o : Operator) : operandCount o.tag = o.arity := by
  cases o <;> rfl

/-- What becomes of a condition, by its tag and the number of its operands. -/
inductive Condition.Becomes (c : Condition) : Except CompileError Clause → Prop
  /-- Without a clause for its tag it is refused whatever its operands, the tag as it was given. -/
  | unsupported (htag : c.spelled ∉ clauseTags) :
      Becomes c (.error (.unsupported c.field c.operator))
  /-- With a wrong number of operands it is refused under the tag in its canonical spelling. -/
  | miscounted {o : Operator} (htag : c.spelled ∈ clauseTags) (hspelled : o.tag = c.spelled)
      (harity : o.arity = operandCount c.spelled)
      (hcount : c.operands.length ≠ operandCount c.spelled) :
      Becomes c (.error (.operandCount c.field o c.operands.length))
  /-- One operand is matched as it is, even if it is empty. -/
  | matched {v : String} (htag : c.spelled ∈ ["eq", "contains"]) (hoperands : c.operands = [v]) :
      Becomes c (.ok (.matchField c.field v))
  /-- The operands are the bounds that the tag names. -/
  | ranged (htag : c.spelled ∈ ["between", "lt", "lte", "gt", "gte"])
      (hcount : c.operands.length = operandCount c.spelled) :
      Becomes c (.ok (.range c.field (.ofNamed (boundNames c.spelled) c.operands)))

namespace Condition

variable {c : Condition}

/-! ## From the tag to the operator -/

theorem operator?_eq_some_iff_tag {o : Operator} :
    c.operator? = some o ↔ o.isSupported = true ∧ o.tag = c.spelled := by
  rw [operator?_eq_some_iff, Operator.ofTag?_eq_some_iff, and_comm, spelled,
    ← String.toList_inj, String.toList_ofList]

theorem operator?_eq_none_iff : c.operator? = none ↔ c.spelled ∉ clauseTags := by
  rw [mem_clauseTags_iff, Option.eq_none_iff_forall_ne_some]
  simp only [ne_eq, operator?_eq_some_iff_tag, not_exists]

/-- Whichever of the tags with a clause are asked about, a condition with one of them names an
operator. -/
theorem exists_operator? {tags : List String} (htags : tags.Sublist clauseTags)
    (h : c.spelled ∈ tags) : ∃ o, c.operator? = some o ∧ o.tag = c.spelled := by
  obtain ⟨o, hsupported, htag⟩ := mem_clauseTags_iff.mp (htags.subset h)
  exact ⟨o, operator?_eq_some_iff_tag.mpr ⟨hsupported, htag⟩, htag⟩

/-! ## From the operator to the clause -/

theorem clause_of_template_one {o : Operator} {make : String → Clause} {v : String}
    (ho : c.operator? = some o) (hmake : o.template? c.field = some (.one make))
    (hoperands : c.operands = [v]) : c.clause = .ok (make v) := by
  unfold clause
  simp only [(operator?_eq_some_iff.mp ho).1, hmake, hoperands]

theorem clause_of_template_two {o : Operator} {make : String → String → Clause} {v w : String}
    (ho : c.operator? = some o) (hmake : o.template? c.field = some (.two make))
    (hoperands : c.operands = [v, w]) : c.clause = .ok (make v w) := by
  unfold clause
  simp only [(operator?_eq_some_iff.mp ho).1, hmake, hoperands]

theorem bound_eq_filter (v : String) : bound v = (some v).filter (· ≠ "") := by
  rw [bound, Option.filter_some]
  by_cases h : v = ""
  · simp [h]
  · simp [h]

/-- A condition comes to what becomes of it. -/
theorem Becomes.clause_eq {r : Except CompileError Clause} (h : c.Becomes r) : c.clause = r := by
  -- the tag decides the operator, whose template decides the clause
  cases h with
  | unsupported htag => exact clause_of_operator?_eq_none (operator?_eq_none_iff.mpr htag)
  | @miscounted o htag hspelled harity hcount =>
    obtain ⟨o', ho', htag'⟩ := exists_operator? (List.Sublist.refl _) htag
    obtain rfl := Operator.tag_inj o' o (htag'.trans hspelled.symm)
    rw [← harity] at hcount
    exact clause_of_length_ne ho' hcount
  | @matched v htag hoperands =>
    obtain ⟨o, ho, hspelled⟩ := exists_operator? (by decide) htag
    rw [← hspelled] at htag
    cases o with
    | eq | contains => exact clause_of_template_one ho rfl hoperands
    | neq | between | lt | lte | gt | gte | hasKey => exact absurd htag (by decide)
  | ranged htag hcount =>
    obtain ⟨o, ho, hspelled⟩ := exists_operator? (by decide) htag
    rw [← hspelled] at htag hcount ⊢
    cases o with
    | between =>
      obtain ⟨v, w, hoperands⟩ := List.length_eq_two.mp hcount
      rw [clause_of_template_two ho rfl hoperands, hoperands]
      simp [Bounds.ofNamed, boundNames, Operator.tag, bound_eq_filter, List.lookup_cons]
    | lt | lte | gt | gte =>
      obtain ⟨v, hoperands⟩ := List.length_eq_one_iff.mp hcount
      rw [clause_of_template_one ho rfl hoperands, hoperands]
      simp [Bounds.ofNamed, boundNames, Operator.tag, bound_eq_filter]
    | eq | neq | contains | hasKey => exact absurd htag (by decide)

/-- Something becomes of every condition. -/
theorem exists_becomes (c : Condition) : ∃ r, c.Becomes r := by
  by_cases htag : c.spelled ∈ clauseTags
  · by_cases hcount : c.operands.length = operandCount c.spelled
    · by_cases hmatched : c.spelled ∈ ["eq", "contains"]
      · have hone : c.operands.length = 1 := by
          rw [hcount, operandCount, if_neg fun h => absurd (h ▸ hmatched) (by decide)]
        obtain ⟨v, hoperands⟩ := List.length_eq_one_iff.mp hone
        exact ⟨_, .matched hmatched hoperands⟩
      · have hranged : c.spelled ∈ ["between", "lt", "lte", "gt", "gte"] := by
          have hsplit : ∀ tag ∈ clauseTags, tag ∉ ["eq", "contains"] →
              tag ∈ ["between", "lt", "lte", "gt", "gte"] := by decide
          exact hsplit c.spelled htag hmatched
        exact ⟨_, .ranged hranged hcount⟩
    · obtain ⟨o, -, hspelled⟩ := exists_operator? (List.Sublist.refl _) htag
      exact ⟨_, .miscounted htag hspelled (hspelled ▸ (operandCount_tag o).symm) hcount⟩
  · exact ⟨_, .unsupported htag⟩

/-! ## Step by step -/

/-- Where a translation that is carried out step by step could get stuck. -/
inductive Misstep where
  /-- An operand is taken from a place where there is none. -/
  | operand (index : Nat)
  /-- A clause is asked for that the operator does not have. -/
  | clause (o : Operator)

/-- The operand at a place. -/
def operandAt (c : Condition) (index : Nat) : Except Misstep String :=
  match c.operands[index]? with
  | some v => .ok v
  | none => .error (.operand index)

/-- The translation step by step: what would refuse the condition is looked at first, then the
operands are taken from their places as the operator needs them. -/
def clauseInSteps (c : Condition) : Except Misstep (Except CompileError Clause) :=
  match Operator.ofTag? c.operator with
  | none => return .error (.unsupported c.field c.operator)
  | some o =>
    if !o.isSupported then return .error (.unsupported c.field c.operator)
    else if c.operands.length ≠ o.arity then
      return .error (.operandCount c.field o c.operands.length)
    else do
      let first ← c.operandAt 0
      match o with
      | .eq | .contains => return .ok (.matchField c.field first)
      | .between =>
        let second ← c.operandAt 1
        return .ok (.range c.field { gte := bound first, lte := bound second })
      | .lt => return .ok (.range c.field { lt := bound first })
      | .lte => return .ok (.range c.field { lte := bound first })
      | .gt => return .ok (.range c.field { gt := bound first })
      | .gte => return .ok (.range c.field { gte := bound first })
      | .neq | .hasKey => throw (.clause o)

/-- No step gets stuck, and the last one has the clause. -/
theorem clauseInSteps_eq (c : Condition) : c.clauseInSteps = .ok c.clause := by
  unfold clauseInSteps
  cases htag : Operator.ofTag? c.operator with
  | none =>
    have hnone : c.operator? = none := by rw [operator?, htag]; rfl
    rw [clause_of_operator?_eq_none hnone]
    rfl
  | some o =>
    dsimp only
    by_cases hsupported : o.isSupported = true
    · have ho : c.operator? = some o := operator?_eq_some_iff.mpr ⟨htag, hsupported⟩
      rw [if_neg (by simp [hsupported])]
      by_cases hcount : c.operands.length = o.arity
      · -- there are as many operands as are taken
        rw [if_neg (not_not_intro hcount)]
        cases o with
        | between =>
          obtain ⟨v, w, hoperands⟩ := List.length_eq_two.mp hcount
          rw [clause_of_template_two ho rfl hoperands, operandAt, operandAt, hoperands]
          rfl
        | eq | contains | lt | lte | gt | gte =>
          obtain ⟨v, hoperands⟩ := List.length_eq_one_iff.mp hcount
          rw [clause_of_template_one ho rfl hoperands, operandAt, hoperands]
          rfl
        | neq | hasKey => exact absurd hsupported (by decide)
      · rw [if_pos hcount, clause_of_length_ne ho hcount]
        rfl
    · have hnone : c.operator? = none := by simp [operator?, htag, hsupported]
      rw [if_pos (by simp [hsupported]), clause_of_operator?_eq_none hnone]
      rfl

end Condition

/-! ## The outcome of a translation -/

/-- A condition is refused as unsupported if there is no clause for its tag without blanks and in
lower case, else for the number of its operands if that is not the tag's, else it is a match or a
range with the operands where the tag has them. On the way no operand is taken from a place where
there is none, and no operator without a clause gets as far as its clause. -/
theorem clause_becomes (c : Condition) :
    (∀ r, c.clause = r ↔ c.Becomes r) ∧ c.clauseInSteps = .ok c.clause := by
  refine ⟨fun r => ⟨?_, Condition.Becomes.clause_eq⟩, c.clauseInSteps_eq⟩
  intro hr
  obtain ⟨r', h⟩ := c.exists_becomes
  have heq : r' = r := h.clause_eq.symm.trans hr
  exact heq ▸ h

/-- An open range, under a tag between blanks and in capitals. -/
example : (Condition.mk "age" "\u3000BETWEEN " ["", "30"]).clause =
    .ok (.range "age" { lte := some "30" }) := by
  cbv

end SearchQuery
