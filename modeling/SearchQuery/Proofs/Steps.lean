import Mathlib.Data.List.DropRight
import Mathlib.Data.List.Induction

/-!
# What steps leave

A state is changed step by step, and each step acts on some part of it. Steps that set the part make
all that was done to it before pointless; the other steps keep it and extend it. So what is left of
a part is what was set last, extended by the steps since.

Main statements: `eq_of_last_step`, `get_foldl_eq_of_set`.
-/

namespace SearchQuery

section
variable {σ α β : Type}

/-- Whatever steps leave is told by the steps up to the last that did not keep it and by those
since, if that is so of the last step, whether it keeps it or not. -/
theorem eq_of_last_step {keeps : σ → Bool} (value : List σ → α) (told : List σ → List σ → α)
    (hnil : value [] = told [] [])
    (hset : ∀ steps s, keeps s = false → value (steps ++ [s]) = told (steps ++ [s]) [])
    (hkeep : ∀ steps before since s, keeps s = true → value steps = told before since →
      value (steps ++ [s]) = told before (since ++ [s])) (steps : List σ) :
    value steps = told (steps.rdropWhile keeps) (steps.rtakeWhile keeps) := by
  induction steps using List.reverseRecOn with
  | nil => exact hnil
  | append_singleton steps s ih =>
    cases hs : keeps s with
    | false =>
      have hstop : ¬keeps s = true := ne_true_of_eq_false hs
      rw [List.rdropWhile_concat_neg _ _ _ hstop, List.rtakeWhile_concat_neg _ _ _ hstop]
      exact hset steps s hs
    | true =>
      rw [List.rdropWhile_concat_pos _ _ _ hs, List.rtakeWhile_concat_pos _ _ _ hs]
      exact hkeep steps _ _ s hs ih

/-! ## What was set last -/

/-- What is set by the last of the steps that set something. -/
def lastSet (set? : σ → Option α) (steps : List σ) : Option α := (steps.filterMap set?).getLast?

/-- The steps behind the last of those that set something. -/
def sinceSet (set? : σ → Option α) (steps : List σ) : List σ :=
  steps.rtakeWhile fun s => (set? s).isNone

variable {set? : σ → Option α} {s : σ}

theorem lastSet_concat (set? : σ → Option α) (steps : List σ) (s : σ) :
    lastSet set? (steps ++ [s]) = (set? s).or (lastSet set? steps) := by
  unfold lastSet
  cases hs : set? s <;> simp [List.filterMap_append, hs]

theorem lastSet_map {γ : Type} (set? : σ → Option α) (f : α → γ) (steps : List σ) :
    lastSet (fun s => (set? s).map f) steps = (lastSet set? steps).map f := by
  rw [lastSet, lastSet, ← List.getLast?_map, List.map_filterMap]

theorem sinceSet_concat_of_none (hs : set? s = none) (steps : List σ) :
    sinceSet set? (steps ++ [s]) = sinceSet set? steps ++ [s] :=
  List.rtakeWhile_concat_pos _ _ _ (by rw [hs]; rfl)

theorem sinceSet_concat_of_some {a : α} (hs : set? s = some a) (steps : List σ) :
    sinceSet set? (steps ++ [s]) = [] :=
  List.rtakeWhile_concat_neg _ _ _ (by rw [hs]; exact Bool.false_ne_true)

/-- A part of a state that each step either sets or extends is what was set last, or what it was
before if nothing was set, extended by the steps since. -/
theorem get_foldl_eq_of_set {apply : β → σ → β} (get : β → α) (extend : α → σ → α)
    (h : ∀ b s, get (apply b s) = (set? s).getD (extend (get b) s)) (b : β) (steps : List σ) :
    get (steps.foldl apply b) =
      (sinceSet set? steps).foldl extend ((lastSet set? steps).getD (get b)) := by
  induction steps using List.reverseRecOn with
  | nil => rfl
  | append_singleton steps s ih =>
    rw [List.foldl_append, List.foldl_cons, List.foldl_nil, h, lastSet_concat]
    cases hs : set? s with
    | some a =>
      -- nothing before the step matters
      rw [sinceSet_concat_of_some hs]
      rfl
    | none =>
      rw [sinceSet_concat_of_none hs, List.foldl_append, Option.none_or, ← ih]
      rfl

/-- A part of a state that no step extends is what was set last. -/
theorem get_foldl_eq_lastSet {apply : β → σ → β} (get : β → α)
    (h : ∀ b s, get (apply b s) = (set? s).getD (get b)) (b : β) (steps : List σ) :
    get (steps.foldl apply b) = (lastSet set? steps).getD (get b) :=
  (get_foldl_eq_of_set get (fun a _ => a) h b steps).trans (List.foldl_fixed _)

end

end SearchQuery
