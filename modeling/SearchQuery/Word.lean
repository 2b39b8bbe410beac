/-!
# Numbers of 64 bits

Which integers are words, with a sign or without. Main statements: each conversion gives the word
that denotes the number, and fails exactly if there is none.
-/

namespace SearchQuery

/-- The word with a sign that denotes an integer. -/
def signed? (n : Int) : Option Int64 :=
  if Int64.minValue.toInt ≤ n ∧ n ≤ Int64.maxValue.toInt then some (.ofInt n) else none

/-- The word without a sign that denotes an integer. -/
def unsigned? (n : Int) : Option UInt64 :=
  if 0 ≤ n ∧ n < UInt64.size then some (.ofNat n.toNat) else none

/-- The word without a sign for the same number. -/
def natural? (x : Int64) : Option UInt64 := unsigned? x.toInt

theorem signed?_eq_some_iff {n : Int} {x : Int64} : signed? n = some x ↔ x.toInt = n := by
  unfold signed?
  constructor
  · intro h
    split at h
    · next hn =>
      rw [Int64.toInt_minValue, Int64.toInt_maxValue] at hn
      obtain rfl := Option.some.inj h
      exact Int64.toInt_ofInt_of_le hn.1 (by omega)
    · contradiction
  · rintro rfl
    rw [if_pos ⟨Int64.minValue_le_toInt x, Int64.toInt_le x⟩, Int64.ofInt_toInt]

theorem unsigned?_eq_some_iff {n : Int} {x : UInt64} :
    unsigned? n = some x ↔ (x.toNat : Int) = n := by
  unfold unsigned?
  constructor
  · intro h
    split at h
    · next hn =>
      obtain rfl := Option.some.inj h
      rw [UInt64.toNat_ofNat_of_lt' (by omega)]
      omega
    · contradiction
  · rintro rfl
    have := UInt64.toNat_lt x
    rw [if_pos ⟨by omega, by simp [UInt64.size]; omega⟩]
    simp

/-- Every word is denoted by its number. -/
theorem unsigned?_toNat (x : UInt64) : unsigned? x.toNat = some x := unsigned?_eq_some_iff.mpr rfl

/-- No word stands for a negative number, and every other keeps its value. -/
theorem natural?_eq_some_iff {x : Int64} {y : UInt64} :
    natural? x = some y ↔ (y.toNat : Int) = x.toInt :=
  unsigned?_eq_some_iff

/-- A word that is not negative has the same number without a sign. -/
theorem exists_natural? {x : Int64} (h : 0 ≤ x) : ∃ y, natural? x = some y := by
  have hnonneg : 0 ≤ x.toInt := Int64.le_iff_toInt_le.mp h
  have hlt : x.toInt < 2 ^ 63 := Int64.toInt_lt x
  refine ⟨_, if_pos ⟨hnonneg, ?_⟩⟩
  have hsize : UInt64.size = 2 ^ 64 := rfl
  omega

end SearchQuery
