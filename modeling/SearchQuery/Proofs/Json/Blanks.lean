import SearchQuery.Proofs.Json.Scanning
import SearchQuery.Text.Spelling

/-!
# Blanks outside the literals

A text without the blanks that stand outside its string literals. Where a literal ends is found by
reading it: a quote ends it, unless a backslash stands before the quote and does not itself belong
to an escape. Whatever the layout, what is left of the text of a value is its compact text.

Main statement: `Value.withoutBlanks_text`.
-/

namespace SearchQuery.Json

/-! ## Deleting blanks -/

/-- A place in a text with respect to the literals in it. -/
inductive Place where
  | outside
  | inside
  /-- Inside, behind a backslash that begins an escape. -/
  | escaped

/-- The rest of a text from a place on, without the blanks outside its literals. -/
def dropBlanks : Place → List Char → List Char
  | _, [] => []
  | .outside, c :: rest =>
    if c = '"' then c :: dropBlanks .inside rest
    else if Text.isBlank c then dropBlanks .outside rest
    else c :: dropBlanks .outside rest
  | .inside, c :: rest =>
    if c = '"' then c :: dropBlanks .outside rest
    else if c = '\\' then c :: dropBlanks .escaped rest
    else c :: dropBlanks .inside rest
  | .escaped, c :: rest => c :: dropBlanks .inside rest

/-- A text without the blanks outside its string literals. -/
def withoutBlanks (text : String) : String := String.ofList (dropBlanks .outside text.toList)

/-- The blank in a literal stays, also behind an escaped quote. -/
example : withoutBlanks "[ \" \\\" \" ,\n  \"\\\\\" , 7 ]" = "[\" \\\" \",\"\\\\\",7]" := by
  decide

/-! ## Literals -/

theorem hexDigit_ne (n : Nat) : hexDigit n ≠ '"' ∧ hexDigit n ≠ '\\' := by
  have h : ∀ m < 16, Nat.digitChar m ≠ '"' ∧ Nat.digitChar m ≠ '\\' := by decide
  exact h (n % 16) (Nat.mod_lt n (by decide))

/-- Whatever stands for a character inside a literal stays and does not end it. -/
theorem dropBlanks_escape (c : Char) (rest : List Char) :
    dropBlanks .inside (escape c ++ rest) = escape c ++ dropBlanks .inside rest := by
  unfold escape
  split
  · rfl
  · rfl
  · rfl
  · rfl
  · rfl
  · rfl
  · rfl
  · next hquote hbackslash _ _ _ _ _ =>
    split
    · obtain ⟨hhigh, hhigh'⟩ := hexDigit_ne (c.toNat / 16)
      obtain ⟨hlow, hlow'⟩ := hexDigit_ne c.toNat
      simp [dropBlanks, hhigh, hhigh', hlow, hlow']
    · rw [List.singleton_append, dropBlanks, if_neg hquote, if_neg hbackslash]
      rfl

theorem dropBlanks_escapes (cs rest : List Char) :
    dropBlanks .inside (cs.flatMap escape ++ rest) =
      cs.flatMap escape ++ dropBlanks .inside rest := by
  induction cs with
  | nil => rfl
  | cons c cs ih =>
    rw [List.flatMap_cons, List.append_assoc, dropBlanks_escape, ih, List.append_assoc]

/-- A literal stays as it is, and ends where it ends. -/
theorem dropBlanks_quote (cs rest : List Char) :
    dropBlanks .outside (quote cs ++ rest) = quote cs ++ dropBlanks .outside rest := by
  have hinside := dropBlanks_escapes cs ('"' :: rest)
  rw [dropBlanks, if_pos rfl] at hinside
  simp only [quote, List.cons_append, List.append_assoc, List.nil_append]
  rw [dropBlanks, if_pos rfl, hinside]

/-! ## What stands between them -/

/-- Neither a blank nor a quote. -/
def IsSolid (c : Char) : Prop := c ≠ '"' ∧ Text.isBlank c = false

instance (c : Char) : Decidable (IsSolid c) := by
  unfold IsSolid
  infer_instance

theorem isSolid_of_isDigit {c : Char} (h : c.isDigit = true) : IsSolid c := by
  obtain ⟨hlow, hhigh⟩ : 48 ≤ c.toNat ∧ c.toNat ≤ 57 := by
    simpa [Char.isDigit, UInt32.le_iff_toNat_le] using h
  refine ⟨fun hquote => ?_, ?_⟩
  · rw [hquote] at hlow
    exact absurd hlow (by decide)
  · -- no digit is among the blanks
    have hblanks : ∀ n ∈ Text.blanks, n < 48 ∨ 57 < n := by decide
    rw [Text.isBlank, Bool.eq_false_iff]
    intro hblank
    have hn := hblanks c.toNat (List.contains_iff_mem.mp hblank)
    omega

theorem isSolid_of_mem_intText {n : Int} {c : Char} (h : c ∈ intText n) : IsSolid c := by
  have hdigits {m : Nat} (hc : c ∈ Nat.toDigits 10 m) : IsSolid c :=
    isSolid_of_isDigit (Nat.isDigit_of_mem_toDigits (by decide) (by decide) hc)
  match n, h with
  | .ofNat m, h => exact hdigits h
  | .negSucc m, h =>
    rcases List.mem_cons.mp h with rfl | hc
    · decide
    · exact hdigits hc

theorem dropBlanks_solid {cs : List Char} (h : ∀ c ∈ cs, IsSolid c) (rest : List Char) :
    dropBlanks .outside (cs ++ rest) = cs ++ dropBlanks .outside rest := by
  induction cs with
  | nil => rfl
  | cons c cs ih =>
    obtain ⟨⟨hquote, hblank⟩, hcs⟩ := List.forall_mem_cons.mp h
    rw [List.cons_append, dropBlanks, if_neg hquote, hblank, if_neg Bool.false_ne_true, ih hcs]
    rfl

theorem dropBlanks_replicate (n : Nat) (rest : List Char) :
    dropBlanks .outside (List.replicate n ' ' ++ rest) = dropBlanks .outside rest := by
  induction n with
  | zero => rfl
  | succ n ih =>
    rw [List.replicate_succ, List.cons_append, dropBlanks]
    exact ih

/-! ## Pieces -/

/-- The characters of the piece are no blanks, and it is no literal in disguise. -/
def Piece.IsSolid : Piece → Prop
  | .plain text => ∀ c ∈ text, Json.IsSolid c
  | _ => True

instance : DecidablePred Piece.IsSolid
  | .plain text => List.decidableBAll Json.IsSolid text
  | .quoted _ | .colon | .line _ => inferInstanceAs (Decidable True)

/-- What is left of a piece is the piece in the compact layout. -/
theorem dropBlanks_set (l : Layout) {p : Piece} (h : p.IsSolid) (rest : List Char) :
    dropBlanks .outside (l.set p ++ rest) = Layout.compact.set p ++ dropBlanks .outside rest := by
  cases p with
  | plain text => exact dropBlanks_solid h rest
  | quoted s => exact dropBlanks_quote s.toList rest
  | colon => cases l <;> rfl
  | line depth =>
    cases l with
    | compact => rfl
    | indented => exact dropBlanks_replicate (2 * depth) rest

theorem dropBlanks_pieces (l : Layout) {pieces : List Piece} (h : ∀ p ∈ pieces, p.IsSolid) :
    dropBlanks .outside (pieces.flatMap l.set) = pieces.flatMap Layout.compact.set := by
  induction pieces with
  | nil => rfl
  | cons p pieces ih =>
    obtain ⟨hp, hpieces⟩ := List.forall_mem_cons.mp h
    rw [List.flatMap_cons, dropBlanks_set l hp, ih hpieces, List.flatMap_cons]

mutual
theorem Value.isSolid_pieces : ∀ (v : Value), v.IsExact → ∀ depth, ∀ p ∈ v.pieces depth, p.IsSolid
  | .null, _, _ => by rw [Value.pieces]; decide
  | .bool true, _, _ => by rw [Value.pieces]; decide
  | .bool false, _, _ => by rw [Value.pieces]; decide
  | .number (.integer _), _, _ => by
    rw [Value.pieces, List.forall_mem_singleton]
    exact fun _ hc => isSolid_of_mem_intText hc
  | .string _, _, _ => by
    rw [Value.pieces, List.forall_mem_singleton]
    trivial
  | .array [], _, _ => by rw [Value.pieces]; decide
  | .array (v :: rest), h, depth => by
    rw [Value.pieces, List.forall_mem_append, List.forall_mem_cons, List.forall_mem_cons]
    exact ⟨⟨by decide, trivial, v.isSolid_pieces h.1 _⟩, isSolid_itemPieces rest h.2 depth⟩
  | .object [], _, _ => by rw [Value.pieces]; decide
  | .object ((_, v) :: rest), h, depth => by
    rw [Value.pieces, List.forall_mem_append, List.forall_mem_cons, List.forall_mem_cons,
      List.forall_mem_cons, List.forall_mem_cons]
    exact ⟨⟨by decide, trivial, trivial, trivial, v.isSolid_pieces h.1 _⟩,
      isSolid_memberPieces rest h.2 depth⟩

theorem isSolid_itemPieces : ∀ (items : List Value), AreExact items →
    ∀ depth, ∀ p ∈ itemPieces depth items, p.IsSolid
  | [], _, _ => by
    rw [itemPieces, List.forall_mem_cons, List.forall_mem_cons]
    exact ⟨trivial, by decide, List.forall_mem_nil _⟩
  | v :: rest, h, depth => by
    rw [itemPieces, List.forall_mem_append, List.forall_mem_cons, List.forall_mem_cons]
    exact ⟨⟨by decide, trivial, v.isSolid_pieces h.1 _⟩, isSolid_itemPieces rest h.2 depth⟩

theorem isSolid_memberPieces : ∀ (members : List (String × Value)), HaveExact members →
    ∀ depth, ∀ p ∈ memberPieces depth members, p.IsSolid
  | [], _, _ => by
    rw [memberPieces, List.forall_mem_cons, List.forall_mem_cons]
    exact ⟨trivial, by decide, List.forall_mem_nil _⟩
  | (_, v) :: rest, h, depth => by
    rw [memberPieces, List.forall_mem_append, List.forall_mem_cons, List.forall_mem_cons,
      List.forall_mem_cons, List.forall_mem_cons]
    exact ⟨⟨by decide, trivial, trivial, trivial, v.isSolid_pieces h.1 _⟩,
      isSolid_memberPieces rest h.2 depth⟩
end

/-- Whatever the layout, the text of an exact value without the blanks outside its literals is its
compact text. -/
theorem Value.withoutBlanks_text (l : Layout) {v : Value} (h : v.IsExact) :
    withoutBlanks (v.text l) = v.text .compact := by
  rw [withoutBlanks, Value.text, String.toList_ofList, dropBlanks_pieces l (v.isSolid_pieces h 0)]
  rfl

end SearchQuery.Json
