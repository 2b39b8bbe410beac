import SearchQuery.Mapping

/-!
# Dotted paths

A text is cut at its dots just as it is joined there, and keys that are followed one after the other
may be followed in two goes.
-/

namespace SearchQuery.FieldPath

open Json

/-! ## Between dots -/

/-- The parts of a text between its dots. -/
def parts (text : String) : List String := (text.toList.splitOn '.').map String.ofList

theorem parts_append_dot (s t : String) : parts (s ++ "." ++ t) = parts s ++ parts t := by
  have hchars : (s ++ "." ++ t).toList = s.toList ++ '.' :: t.toList := by simp
  have hsplit : (s.toList ++ '.' :: t.toList).splitOn '.' =
      s.toList.splitOn '.' ++ t.toList.splitOn '.' :=
    List.splitOnP_append_cons _ _ (beq_self_eq_true '.')
  rw [parts, hchars, hsplit, List.map_append]
  rfl

/-- A text without a dot is its only part. -/
theorem parts_eq_singleton {s : String} (h : '.' ∉ s.toList) : parts s = [s] := by
  rw [parts, List.splitOn_eq_singleton h, List.map_singleton, String.ofList_toList]

/-! ## Segments -/

theorem splitDots_eq_splitOn (cs : List Char) : splitDots cs = cs.splitOn '.' := by
  induction cs with
  | nil => rfl
  | cons c cs ih =>
    rw [splitDots, ih, List.splitOn_eq_splitOnP, List.splitOn_eq_splitOnP,
      List.splitOnP_cons_eq_if_modifyHead]
    by_cases hdot : c = '.'
    · simp [hdot]
    · obtain ⟨part, parts, hparts⟩ :=
        List.exists_cons_of_ne_nil (List.splitOnP_ne_nil (· == '.') cs)
      simp [hdot, hparts]

/-- The parts of a text that are not empty. -/
def segments (text : String) : List String := (parts text).filter (· ≠ "")

theorem steps_eq_segments (s : String) : steps s = segments s := by
  rw [steps, splitDots_eq_splitOn, segments, parts, List.filter_map]
  congr 2
  funext part
  simp

/-- The segments up to a dot come before those behind it. -/
theorem segments_append_dot (s t : String) :
    segments (s ++ "." ++ t) = segments s ++ segments t := by
  rw [segments, parts_append_dot, List.filter_append]
  rfl

theorem segments_append_dot_right (s : String) : segments (s ++ ".") = segments s := by
  have h := segments_append_dot s ""
  rw [String.append_empty] at h
  exact h.trans (List.append_nil _)

theorem segments_append_dot_left (s : String) : segments ("." ++ s) = segments s := by
  have h := segments_append_dot "" s
  rw [String.empty_append] at h
  exact h.trans (List.nil_append _)

/-- A text of dots has no segments. -/
theorem segments_eq_nil {s : String} (h : ∀ c ∈ s.toList, c = '.') : segments s = [] := by
  have hsplit (cs : List Char) (hcs : ∀ c ∈ cs, c = '.') :
      (splitDots cs).filter (· ≠ []) = [] := by
    induction cs with
    | nil => rfl
    | cons c cs ih =>
      obtain ⟨hdot, hrest⟩ := List.forall_mem_cons.mp hcs
      rw [splitDots, if_pos hdot, List.filter_cons_of_neg (by simp), ih hrest]
  rw [← steps_eq_segments, steps, hsplit s.toList h]
  rfl

/-! ## Along keys -/

theorem descend?_append (v : Value) (keys more : List String) :
    descend? v (keys ++ more) = (descend? v keys).bind (descend? · more) := by
  induction keys generalizing v with
  | nil => rfl
  | cons key keys ih =>
    rw [List.cons_append, descend?, descend?, Option.bind_assoc]
    exact congrArg _ (funext ih)

theorem descend?_pair_eq_some_iff {v w : Value} {key key' : String} :
    descend? v [key, key'] = some w ↔ ∃ u, v.get? key = some u ∧ u.get? key' = some w := by
  simp only [descend?, Option.bind_fun_some, Option.bind_eq_some_iff]

end SearchQuery.FieldPath
