import SearchQuery.Proofs.Json.Scanning
import SearchQuery.Json.Reader

/-!
# Reading what has been written

The tokens of a value are read as the value's tree, whatever stands behind them, and the tree is no
other value's. So a text of an exact value is read as its tree, and two such texts differ if the
values do.

Main statements: `Reading.ofText_text`, `Value.text_inj`.
-/

namespace SearchQuery.Json

/-! ## From tokens to a tree -/

namespace Reading

/-- Where an item may come first, a value is read as anywhere else: it does not begin with the
bracket of an empty array. -/
theorem resume_firstItem (v : Value) (frames : List Frame) (rest : List Token) :
    resume .firstItem frames (v.tokens ++ rest) = resume .value frames (v.tokens ++ rest) := by
  match v with
  | .null => rfl
  | .bool _ => rfl
  | .number _ => rfl
  | .string _ => rfl
  | .array [] => rfl
  | .array (_ :: _) => rfl
  | .object [] => rfl
  | .object (_ :: _) => rfl

mutual
/-- The tokens of a value are read as its tree. -/
theorem resume_value : ∀ (v : Value) (frames : List Frame) (rest : List Token),
    resume .value frames (v.tokens ++ rest) = resume (.after v.tree) frames rest
  | .null, _, _ => rfl
  | .bool _, _, _ => rfl
  | .number _, _, _ => rfl
  | .string _, _, _ => rfl
  | .array [], _, _ => rfl
  | .array (v :: items), frames, rest => by
    show resume .firstItem (.array [] :: frames) (v.tokens ++ itemTokens items ++ rest) = _
    rw [List.append_assoc, resume_firstItem, resume_value v, resume_items items]
    rfl
  | .object [], _, _ => rfl
  | .object ((k, v) :: members), frames, rest => by
    show resume .value (.object [] (some k) :: frames)
      (v.tokens ++ memberTokens members ++ rest) = _
    rw [List.append_assoc, resume_value v, resume_members members]
    rfl

/-- The tokens of the items behind a finished one close the array around all of them. -/
theorem resume_items : ∀ (items : List Value) (t : Tree) (before : List Tree)
    (frames : List Frame) (rest : List Token),
    resume (.after t) (.array before :: frames) (itemTokens items ++ rest) =
      resume (.after (.array (.prepend (t :: before) (itemsTree items)))) frames rest
  | [], _, _, _, _ => rfl
  | v :: items, t, before, frames, rest => by
    show resume .value (.array (t :: before) :: frames) (v.tokens ++ itemTokens items ++ rest) = _
    rw [List.append_assoc, resume_value v, resume_items items]
    rfl

/-- The tokens of the members behind a finished one close the object around all of them. -/
theorem resume_members : ∀ (members : List (String × Value)) (t : Tree)
    (before : List (Option String × Tree)) (key : Option String) (frames : List Frame)
    (rest : List Token),
    resume (.after t) (.object before key :: frames) (memberTokens members ++ rest) =
      resume (.after (.object (.prepend ((key, t) :: before) (membersTree members)))) frames rest
  | [], _, _, _, _, _ => rfl
  | (k, v) :: members, t, before, key, frames, rest => by
    show resume .value (.object ((key, t) :: before) (some k) :: frames)
      (v.tokens ++ memberTokens members ++ rest) = _
    rw [List.append_assoc, resume_value v, resume_members members]
    rfl
end

/-- The text of an exact value is read as its tree, and nothing is left over. -/
theorem ofText_text (l : Layout) {v : Value} (h : v.IsExact) :
    ofText (v.text l) = ⟨v.tree, true⟩ := by
  have hread := resume_value v [] []
  rw [List.append_nil] at hread
  rw [ofText, scan_text l h, ofTokens, hread]
  rfl

end Reading

/-! ## Different values -/

mutual
/-- No two values have one tree. -/
theorem Value.tree_inj : ∀ {v w : Value}, v.tree = w.tree → v = w
  | .null, w, h => by cases w <;> simp_all [Value.tree]
  | .bool _, w, h => by cases w <;> simp_all [Value.tree]
  | .number _, w, h => by cases w <;> simp_all [Value.tree]
  | .string _, w, h => by cases w <;> simp_all [Value.tree]
  | .array items, w, h => by
    cases w with
    | array others => rw [itemsTree_inj (Tree.array.inj h)]
    | _ => simp [Value.tree] at h
  | .object members, w, h => by
    cases w with
    | object others => rw [membersTree_inj (Tree.object.inj h)]
    | _ => simp [Value.tree] at h

theorem itemsTree_inj : ∀ {items others : List Value}, itemsTree items = itemsTree others →
    items = others
  | [], [], _ => rfl
  | [], _ :: _, h => nomatch h
  | _ :: _, [], h => nomatch h
  | v :: items, w :: others, h => by
    obtain ⟨hv, hitems⟩ := Items.item.inj h
    rw [Value.tree_inj hv, itemsTree_inj hitems]

theorem membersTree_inj : ∀ {members others : List (String × Value)},
    membersTree members = membersTree others → members = others
  | [], [], _ => rfl
  | [], _ :: _, h => nomatch h
  | _ :: _, [], h => nomatch h
  | (k, v) :: members, (k', w) :: others, h => by
    obtain ⟨hk, hv, hmembers⟩ := Members.member.inj h
    rw [Option.some.inj hk, Value.tree_inj hv, membersTree_inj hmembers]
end

/-- In either layout exact values have one text only if they are equal. -/
theorem Value.text_inj (l : Layout) {v w : Value} (hv : v.IsExact) (hw : w.IsExact)
    (h : v.text l = w.text l) : v = w := by
  have hread := Reading.ofText_text l hv
  rw [h, Reading.ofText_text l hw] at hread
  exact (Value.tree_inj (Reading.mk.inj hread).1).symm

end SearchQuery.Json
