/-!
# Clauses

What a search engine evaluates on a document: seven kinds of clauses, of which the boolean one
holds others in four buckets.
-/

namespace SearchQuery

/-- The ends of a range; an absent one leaves the range open there. -/
structure Bounds where
  gte : Option String := none
  lte : Option String := none
  gt : Option String := none
  lt : Option String := none
  deriving DecidableEq, Repr, Inhabited

/-- Four buckets, and how many of `should` have to match. -/
structure Buckets (α : Type) where
  must : List α := []
  should : List α := []
  mustNot : List α := []
  filter : List α := []
  minimum : Option UInt32 := none
  deriving Repr, Inhabited

/-- A clause. -/
inductive Clause where
  | matchAll
  /-- The analysed field matches a value. -/
  | matchField (field value : String)
  | range (field : String) (bounds : Bounds)
  /-- The field is exactly one of several terms. -/
  | terms (field : String) (values : List String)
  /-- One of several analysed fields matches a text. -/
  | multiMatch (text : String) (fields : List String) (fuzziness : Option String)
  /-- The field is present. -/
  | present (field : String)
  | boolean (buckets : Buckets Clause)
  deriving Repr, Inhabited

/-- The clauses of a boolean combination. -/
abbrev BooleanClause := Buckets Clause

/-- Induction over a clause and the clauses in its buckets. -/
@[elab_as_elim, induction_eliminator]
theorem Clause.induction {motive : Clause → Prop} (matchAll : motive .matchAll)
    (matchField : ∀ field value, motive (.matchField field value))
    (range : ∀ field bounds, motive (.range field bounds))
    (terms : ∀ field values, motive (.terms field values))
    (multiMatch : ∀ text fields fuzziness, motive (.multiMatch text fields fuzziness))
    (present : ∀ field, motive (.present field))
    (boolean : ∀ must should mustNot filter minimum, (∀ c ∈ must, motive c) →
      (∀ c ∈ should, motive c) → (∀ c ∈ mustNot, motive c) → (∀ c ∈ filter, motive c) →
      motive (.boolean ⟨must, should, mustNot, filter, minimum⟩))
    (c : Clause) : motive c :=
  match c with
  | .matchAll => matchAll
  | .matchField field value => matchField field value
  | .range field bounds => range field bounds
  | .terms field values => terms field values
  | .multiMatch text fields fuzziness => multiMatch text fields fuzziness
  | .present field => present field
  | .boolean ⟨must, should, mustNot, filter, minimum⟩ =>
    boolean must should mustNot filter minimum
      (fun c _ => induction matchAll matchField range terms multiMatch present boolean c)
      (fun c _ => induction matchAll matchField range terms multiMatch present boolean c)
      (fun c _ => induction matchAll matchField range terms multiMatch present boolean c)
      (fun c _ => induction matchAll matchField range terms multiMatch present boolean c)

/-- The clause's keyword. -/
def Clause.kind : Clause → String
  | matchAll => "match_all"
  | matchField .. => "match"
  | range .. => "range"
  | terms .. => "terms"
  | multiMatch .. => "multi_match"
  | present _ => "exists"
  | boolean _ => "bool"

namespace Buckets

variable {α : Type}

/-- All four buckets are empty, whatever the minimum. -/
def isEmpty (b : Buckets α) : Bool :=
  b.must.isEmpty && b.should.isEmpty && b.mustNot.isEmpty && b.filter.isEmpty

/-- Nothing is in a clause exactly if nothing is in any of its buckets. -/
theorem isEmpty_iff {b : Buckets α} :
    b.isEmpty = true ↔ b.must = [] ∧ b.should = [] ∧ b.mustNot = [] ∧ b.filter = [] := by
  simp only [isEmpty, Bool.and_eq_true, List.isEmpty_iff, and_assoc]

/-- Adds to what must match. -/
def pushMust (b : Buckets α) (a : α) : Buckets α := { b with must := b.must ++ [a] }

/-- Adds to what should match; of these one has to, unless another minimum is set. -/
def pushShould (b : Buckets α) (a : α) : Buckets α :=
  { b with should := b.should ++ [a], minimum := some (b.minimum.getD 1) }

/-- Adds to what must not match. -/
def pushMustNot (b : Buckets α) (a : α) : Buckets α := { b with mustNot := b.mustNot ++ [a] }

/-- Adds to what must match without scoring. -/
def pushFilter (b : Buckets α) (a : α) : Buckets α := { b with filter := b.filter ++ [a] }

end Buckets

/-! ## Flat lists of clauses -/

/-- Clauses in the order they were added, all of which have to match. -/
structure Collector where
  clauses : List Clause := []
  deriving Repr, Inhabited

namespace Collector

/-- Adds a clause. -/
def add (c : Collector) (clause : Clause) : Collector := ⟨c.clauses ++ [clause]⟩

/-- Nothing was added. -/
def isEmpty (c : Collector) : Bool := c.clauses.isEmpty

/-- The number of clauses. -/
def size (c : Collector) : Nat := c.clauses.length

/-- The conjunction of the clauses. -/
def conjunction (c : Collector) : BooleanClause := { must := c.clauses }

end Collector

end SearchQuery
