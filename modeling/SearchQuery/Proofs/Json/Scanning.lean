import SearchQuery.Json.Printer
import SearchQuery.Json.Token

/-!
# Scanning what has been written

The text of a value, in either layout, is scanned to the tokens that the value is made of.

A numeral has no end of its own: the scanner is still in the middle of it when its last character
has been read, and only the next character shows that it is finished. `Scanner.Settled` says what
both situations behind a value have in common, and it is what every piece of a text preserves.

Main statement: `scan_text`.
-/

namespace SearchQuery.Json

/-! ## Values without floats -/

/-- The number is an integer that some word of 64 bits denotes. -/
def Number.IsWord : Number → Prop
  | .integer n => (signed? n).isSome ∨ (unsigned? n).isSome
  | .float _ => False

mutual
/-- Every number in the value is an integer that some word denotes. -/
def Value.IsExact : Value → Prop
  | .number n => n.IsWord
  | .array items => AreExact items
  | .object members => HaveExact members
  | _ => True

/-- All items are exact. -/
def AreExact : List Value → Prop
  | [] => True
  | v :: rest => v.IsExact ∧ AreExact rest

/-- The values of all members are exact. -/
def HaveExact : List (String × Value) → Prop
  | [] => True
  | (_, v) :: rest => v.IsExact ∧ HaveExact rest
end

/-! ## The tokens of a value -/

mutual
/-- The tokens that a value is made of. -/
def Value.tokens : Value → List Token
  | .null => [.null]
  | .bool b => [.bool b]
  | .number n => [.number (some n)]
  | .string s => [.string (some s)]
  | .array [] => [.openArray, .closeArray]
  | .array (v :: rest) => .openArray :: v.tokens ++ itemTokens rest
  | .object [] => [.openObject, .closeObject]
  | .object ((k, v) :: rest) =>
    .openObject :: .string (some k) :: .colon :: v.tokens ++ memberTokens rest

/-- The tokens of the items behind the first, and the bracket. -/
def itemTokens : List Value → List Token
  | [] => [.closeArray]
  | v :: rest => .comma :: v.tokens ++ itemTokens rest

/-- The tokens of the members behind the first, and the bracket. -/
def memberTokens : List (String × Value) → List Token
  | [] => [.closeObject]
  | (k, v) :: rest => .comma :: .string (some k) :: .colon :: v.tokens ++ memberTokens rest
end

namespace Scanner

variable {ts : List Token}

/-! ## String literals -/

theorem hexDigit?_hexDigit (n : Nat) : hexDigit? (hexDigit n) = some (n % 16) := by
  have h : ∀ m < 16, hexDigit? (Nat.digitChar m) = some m := by decide
  exact h (n % 16) (Nat.mod_lt n (by decide))

/-- Four digits escape a control character, since it is below `0x20`. -/
theorem pushUnit_control {c : Char} (hc : c.toNat < 0x20) (chars : List Char) :
    Content.pushUnit (16 * (16 * 0 + c.toNat / 16 % 16) + c.toNat % 16) (.whole chars) =
      .whole (c :: chars) := by
  have hvalue : 16 * (16 * 0 + c.toNat / 16 % 16) + c.toNat % 16 = c.toNat := by omega
  have hhigh : Content.isHigh c.toNat = false := by
    simp only [Content.isHigh, Bool.and_eq_false_iff, decide_eq_false_iff_not]
    omega
  have hlow : Content.isLow c.toNat = false := by
    simp only [Content.isLow, Bool.and_eq_false_iff, decide_eq_false_iff_not]
    omega
  rw [hvalue, Content.pushUnit, hhigh, hlow, Char.ofNat_toNat]
  rfl

theorem step_unit {content : Content} {left value d : Nat} {c : Char}
    (hd : hexDigit? c = some d) :
    step ⟨.unit content left value, ts⟩ c =
      if left ≤ 1 then ⟨.string (content.pushUnit (16 * value + d)), ts⟩
      else ⟨.unit content (left - 1) (16 * value + d), ts⟩ := by
  simp only [step, hd]

/-- Whatever stands for a character inside a literal is read as that character. -/
theorem foldl_escape (c : Char) (chars : List Char) :
    (escape c).foldl step ⟨.string (.whole chars), ts⟩ = ⟨.string (.whole (c :: chars)), ts⟩ := by
  unfold escape
  split
  · rfl
  · rfl
  · rfl
  · rfl
  · rfl
  · rfl
  · rfl
  · next hquote hbackslash _ _ _ _ _ =>
    split
    · next hcontrol =>
      -- both leading zeros leave the value at zero
      show step (step ⟨.unit (.whole chars) 2 0, ts⟩ (hexDigit (c.toNat / 16)))
        (hexDigit c.toNat) = _
      rw [step_unit (hexDigit?_hexDigit _), if_neg (by decide), step_unit (hexDigit?_hexDigit _),
        if_pos (by decide), pushUnit_control hcontrol]
    · next hplain =>
      rw [List.foldl_cons, List.foldl_nil, step]
      simp only [if_neg hquote, if_neg hbackslash, if_neg hplain]
      rfl

theorem foldl_escapes (cs chars : List Char) :
    (cs.flatMap escape).foldl step ⟨.string (.whole chars), ts⟩ =
      ⟨.string (.whole (cs.reverse ++ chars)), ts⟩ := by
  induction cs generalizing chars with
  | nil => rfl
  | cons c rest ih =>
    rw [List.flatMap_cons, List.foldl_append, foldl_escape, ih, List.reverse_cons,
      List.append_assoc, List.singleton_append]

/-- A literal is read as the string that was quoted. -/
theorem foldl_quote (s : String) :
    (quote s.toList).foldl step ⟨.between, ts⟩ = ⟨.between, .string (some s) :: ts⟩ := by
  rw [quote, List.cons_append, List.foldl_cons, List.foldl_append]
  show ['"'].foldl step ((s.toList.flatMap escape).foldl step ⟨.string (.whole []), ts⟩) = _
  rw [foldl_escapes, List.append_nil]
  show (⟨.between, .string (some (String.ofList s.toList.reverse.reverse)) :: ts⟩ : Scanner) = _
  rw [List.reverse_reverse, String.ofList_toList]

/-! ## Finished tokens -/

/-- No numeral goes on with this character. -/
def EndsNumeral (c : Char) : Prop :=
  c.isDigit = false ∧ c ≠ '.' ∧ c ≠ 'e' ∧ c ≠ 'E' ∧ c ≠ '+' ∧ c ≠ '-'

instance (c : Char) : Decidable (EndsNumeral c) := by
  unfold EndsNumeral
  infer_instance

/-- The tokens are finished, or a numeral is the last of them and goes on with no character that
may follow. -/
structure Settled (s : Scanner) (ts : List Token) : Prop where
  finish : s.finish = ts
  step : ∀ c, EndsNumeral c → s.step c = start ts c

theorem settled_between (ts : List Token) : Settled ⟨.between, ts⟩ ts :=
  ⟨rfl, fun _ _ => rfl⟩

/-- A numeral that may end is settled. -/
theorem settled_numeral {d : Draft} (hfinal : d.part.isFinal = true) (ts : List Token) :
    Settled ⟨.numeral d, ts⟩ (d.token :: ts) where
  finish := rfl
  step := by
    rintro c ⟨hdigit, hpoint, he, hE, hplus, hminus⟩
    have hpush : d.push? c = none := by
      simp [Draft.push?, hdigit, hpoint, he, hE, hplus, hminus]
    simp [Scanner.step, hpush, hfinal, hdigit]

/-! ## Numerals -/

theorem start_digit {c : Char} (hc : c.isDigit = true) :
    start ts c = ⟨.numeral (Draft.blank.begin c), ts⟩ := by
  unfold start
  split <;> first | exact absurd hc (by decide) | rw [if_pos hc]

/-- Further digits go to the whole part. -/
theorem foldl_digits {digits : List Char} (hdigits : ∀ c ∈ digits, c.isDigit = true)
    (negative : Bool) (whole : List Char) :
    digits.foldl step ⟨.numeral ⟨.whole, ⟨negative, whole, [], none⟩⟩, ts⟩ =
      ⟨.numeral ⟨.whole, ⟨negative, digits.reverse ++ whole, [], none⟩⟩, ts⟩ := by
  induction digits generalizing whole with
  | nil => rfl
  | cons c rest ih =>
    have hstep : step ⟨.numeral ⟨.whole, ⟨negative, whole, [], none⟩⟩, ts⟩ c =
        ⟨.numeral ⟨.whole, ⟨negative, c :: whole, [], none⟩⟩, ts⟩ := by
      simp only [step, Draft.push?, hdigits c List.mem_cons_self, if_true, Draft.pushWhole]
    rw [List.foldl_cons, hstep, ih fun d hd => hdigits d (List.mem_cons_of_mem c hd),
      List.reverse_cons, List.append_assoc, List.singleton_append]

/-- The digits of a number begin with a zero only if that is all of them. -/
theorem exists_toDigits_eq_cons (n : Nat) :
    ∃ c rest, Nat.toDigits 10 n = c :: rest ∧ (c = '0' → rest = []) := by
  induction n using Nat.strongRecOn with
  | ind n ih =>
    rw [Nat.toDigits_eq_if (by decide)]
    by_cases hsmall : n < 10
    · exact ⟨n.digitChar, [], by rw [if_pos hsmall], fun _ => rfl⟩
    · obtain ⟨c, rest, hdigits, hzero⟩ := ih (n / 10) (by omega)
      refine ⟨c, rest ++ [(n % 10).digitChar], by rw [if_neg hsmall, hdigits]; rfl, ?_⟩
      -- the leading part is not zero, so it does not begin with one
      intro hc
      have hvalue := Nat.ofDigitChars_ten_toDigits (n := n / 10)
      rw [hdigits, hzero hc, hc] at hvalue
      have hquotient : n / 10 = 0 := hvalue.symm
      omega

/-- The digits of a number are read as a numeral, behind a minus or not. -/
theorem settled_digits (negative : Bool) {n : Nat} {c : Char} {rest : List Char}
    (hdigits : Nat.toDigits 10 n = c :: rest) (hzero : c = '0' → rest = []) (ts : List Token) :
    Settled
      (rest.foldl step ⟨.numeral (Draft.begin ⟨.sign, ⟨negative, [], [], none⟩⟩ c), ts⟩)
      (.number (Numeral.value? ⟨negative, Nat.toDigits 10 n, [], none⟩) :: ts) := by
  have hrest : ∀ d ∈ rest, d.isDigit = true := by
    intro d hd
    refine Nat.isDigit_of_mem_toDigits (b := 10) (n := n) (by decide) (by decide) ?_
    rw [hdigits]
    exact List.mem_cons_of_mem c hd
  rw [hdigits, Draft.begin]
  by_cases hc : c = '0'
  · -- no digit may follow a leading zero, and none does
    rw [if_pos hc, hzero hc]
    exact settled_numeral rfl ts
  · rw [if_neg hc, foldl_digits hrest]
    have hsettled := settled_numeral
      (d := ⟨.whole, ⟨negative, rest.reverse ++ [c], [], none⟩⟩) rfl ts
    simpa [Draft.token, Part.isFinal] using hsettled

end Scanner

/-- A number that some word denotes is the value of its own numeral. -/
theorem Numeral.value?_toDigits (negative : Bool) (n : Nat) (hsign : negative = true → n ≠ 0)
    (hword : (Number.integer (if negative then -n else n)).IsWord) :
    Numeral.value? ⟨negative, Nat.toDigits 10 n, [], none⟩ =
      some (.integer (if negative then -n else n)) := by
  have hn : natOf (Nat.toDigits 10 n) = n := Nat.ofDigitChars_ten_toDigits
  have hword' := hword
  rw [Number.IsWord, ← Bool.or_eq_true] at hword'
  unfold value?
  simp only [hn, hword', List.isEmpty_nil, Option.isNone_none, Bool.and_true, Bool.true_and]
  cases negative with
  | false => rfl
  | true =>
    have hne : ¬(-(n : Int) = 0) := by
      have := hsign rfl
      omega
    simp [hne]

namespace Scanner

/-- The text of a number that some word denotes is read as that number. -/
theorem settled_number {number : Number} (h : number.IsWord) (ts : List Token) :
    Settled (number.text.foldl step ⟨.between, ts⟩) (.number (some number) :: ts) := by
  match number, h with
  | .integer (.ofNat n), h =>
    obtain ⟨c, rest, hdigits, hzero⟩ := exists_toDigits_eq_cons n
    have hc : c.isDigit = true :=
      Nat.isDigit_of_mem_toDigits (b := 10) (n := n) (by decide) (by decide)
        (by rw [hdigits]; exact List.mem_cons_self)
    have hvalue := Numeral.value?_toDigits false n (by simp) h
    have hsettled := settled_digits false hdigits hzero ts
    rw [hvalue] at hsettled
    rw [Number.text, intText, hdigits, List.foldl_cons]
    show Settled (rest.foldl step (start ts c)) _
    rw [start_digit hc]
    exact hsettled
  | .integer (.negSucc n), h =>
    obtain ⟨c, rest, hdigits, hzero⟩ := exists_toDigits_eq_cons (n + 1)
    have hc : c.isDigit = true :=
      Nat.isDigit_of_mem_toDigits (b := 10) (n := n + 1) (by decide) (by decide)
        (by rw [hdigits]; exact List.mem_cons_self)
    -- behind a minus the digits are not those of zero, which would be a float
    have hvalue := Numeral.value?_toDigits true (n + 1) (by simp) h
    have hsettled := settled_digits true hdigits hzero ts
    rw [hvalue] at hsettled
    have hstep : step ⟨.numeral .minus, ts⟩ c = ⟨.numeral (Draft.minus.begin c), ts⟩ := by
      simp only [step, Draft.push?, hc, if_true, Draft.minus]
    rw [Number.text, intText, hdigits, List.foldl_cons, List.foldl_cons]
    show Settled (rest.foldl step (step ⟨.numeral .minus, ts⟩ c)) _
    rw [hstep]
    exact hsettled

/-! ## Pieces of a text -/

variable (l : Layout)

/-- Reads the pieces of a text in a layout. -/
def readPieces (s : Scanner) (pieces : List Piece) : Scanner :=
  (pieces.flatMap l.set).foldl step s

theorem readPieces_cons (s : Scanner) (p : Piece) (pieces : List Piece) :
    readPieces l s (p :: pieces) = readPieces l ((l.set p).foldl step s) pieces := by
  rw [readPieces, readPieces, List.flatMap_cons, List.foldl_append]

theorem readPieces_append (s : Scanner) (pieces more : List Piece) :
    readPieces l s (pieces ++ more) = readPieces l (readPieces l s pieces) more := by
  rw [readPieces, readPieces, readPieces, List.flatMap_append, List.foldl_append]

theorem foldl_blanks (n : Nat) :
    (List.replicate n ' ').foldl step ⟨.between, ts⟩ = ⟨.between, ts⟩ := by
  induction n with
  | zero => rfl
  | succ n ih =>
    rw [List.replicate_succ, List.foldl_cons]
    exact ih

/-- A break is nothing between tokens. -/
theorem foldl_line (depth : Nat) :
    (l.set (.line depth)).foldl step ⟨.between, ts⟩ = ⟨.between, ts⟩ := by
  cases l with
  | compact => rfl
  | indented => exact foldl_blanks (2 * depth)

theorem foldl_colon :
    (l.set .colon).foldl step ⟨.between, ts⟩ = ⟨.between, .colon :: ts⟩ := by
  cases l <;> rfl

/-- A break changes nothing behind finished tokens. -/
theorem Settled.foldl_line {s : Scanner} (h : Settled s ts) (depth : Nat) :
    Settled ((l.set (.line depth)).foldl Scanner.step s) ts := by
  cases l with
  | compact => exact h
  | indented =>
    show Settled ((List.replicate (2 * depth) ' ').foldl Scanner.step (s.step '\n')) ts
    rw [h.step '\n' (by decide)]
    show Settled ((List.replicate (2 * depth) ' ').foldl Scanner.step ⟨.between, ts⟩) ts
    rw [foldl_blanks]
    exact settled_between ts

/-- A bracket or a comma is a token of its own behind finished tokens. -/
theorem Settled.foldl_plain {s : Scanner} (h : Settled s ts) {c : Char} {t : Token}
    (hc : EndsNumeral c) (ht : start ts c = ⟨.between, t :: ts⟩) :
    (l.set (.plain [c])).foldl Scanner.step s = ⟨.between, t :: ts⟩ := by
  rw [← ht, ← h.step c hc]
  rfl

mutual
/-- The pieces of a value are read as its tokens. -/
theorem settled_pieces : ∀ (v : Value), v.IsExact → ∀ (depth : Nat) (ts : List Token),
    Settled (readPieces l ⟨.between, ts⟩ (v.pieces depth)) (v.tokens.reverse ++ ts)
  | .null, _, _, ts => settled_between (.null :: ts)
  | .bool true, _, _, ts => settled_between (.bool true :: ts)
  | .bool false, _, _, ts => settled_between (.bool false :: ts)
  | .number n, h, _, ts => by
    have hnumber := settled_number h ts
    simpa [Value.pieces, Value.tokens, readPieces, Layout.set] using hnumber
  | .string s, _, _, ts => by
    rw [Value.pieces, readPieces_cons, Layout.set, foldl_quote]
    exact settled_between _
  | .array [], _, _, ts => settled_between (.closeArray :: .openArray :: ts)
  | .array (v :: rest), h, depth, ts => by
    -- if the first item is a numeral, it is finished by what comes behind it
    have hv := settled_pieces v h.1 (depth + 1) (.openArray :: ts)
    have hrest := readPieces_items rest h.2 depth hv
    rw [Value.pieces, List.cons_append, List.cons_append, readPieces_cons, readPieces_cons,
      readPieces_append]
    show Settled (readPieces l (readPieces l ((l.set (.line (depth + 1))).foldl step
      ⟨.between, .openArray :: ts⟩) (v.pieces (depth + 1))) (itemPieces depth rest)) _
    rw [foldl_line, hrest, Value.tokens]
    simpa using settled_between _
  | .object [], _, _, ts => settled_between (.closeObject :: .openObject :: ts)
  | .object ((k, v) :: rest), h, depth, ts => by
    have hv := settled_pieces v h.1 (depth + 1) (.colon :: .string (some k) :: .openObject :: ts)
    have hrest := readPieces_members rest h.2 depth hv
    rw [Value.pieces, List.cons_append, List.cons_append, List.cons_append, List.cons_append,
      readPieces_cons, readPieces_cons, readPieces_cons, readPieces_cons, readPieces_append]
    show Settled (readPieces l (readPieces l ((l.set .colon).foldl step ((quote k.toList).foldl
      step ((l.set (.line (depth + 1))).foldl step ⟨.between, .openObject :: ts⟩)))
        (v.pieces (depth + 1))) (memberPieces depth rest)) _
    rw [foldl_line, foldl_quote, foldl_colon, hrest, Value.tokens]
    simpa using settled_between _

/-- The items behind the first are read as their tokens. -/
theorem readPieces_items : ∀ (items : List Value), AreExact items →
    ∀ (depth : Nat) {s : Scanner} {ts : List Token}, Settled s ts →
      readPieces l s (itemPieces depth items) = ⟨.between, (itemTokens items).reverse ++ ts⟩
  | [], _, depth, s, ts, hs => by
    rw [itemPieces, readPieces_cons, readPieces_cons]
    exact (hs.foldl_line l depth).foldl_plain l (by decide) rfl
  | v :: rest, h, depth, s, ts, hs => by
    have hv := settled_pieces v h.1 (depth + 1) (.comma :: ts)
    rw [itemPieces, List.cons_append, List.cons_append, readPieces_cons, readPieces_cons,
      readPieces_append, hs.foldl_plain l (by decide) rfl, foldl_line,
      readPieces_items rest h.2 depth hv, itemTokens]
    simp

/-- The members behind the first are read as their tokens. -/
theorem readPieces_members : ∀ (members : List (String × Value)), HaveExact members →
    ∀ (depth : Nat) {s : Scanner} {ts : List Token}, Settled s ts →
      readPieces l s (memberPieces depth members) = ⟨.between, (memberTokens members).reverse ++ ts⟩
  | [], _, depth, s, ts, hs => by
    rw [memberPieces, readPieces_cons, readPieces_cons]
    exact (hs.foldl_line l depth).foldl_plain l (by decide) rfl
  | (k, v) :: rest, h, depth, s, ts, hs => by
    have hv := settled_pieces v h.1 (depth + 1) (.colon :: .string (some k) :: .comma :: ts)
    rw [memberPieces, List.cons_append, List.cons_append, List.cons_append, List.cons_append,
      readPieces_cons, readPieces_cons, readPieces_cons, readPieces_cons, readPieces_append,
      hs.foldl_plain l (by decide) rfl, foldl_line, Layout.set, foldl_quote, foldl_colon,
      readPieces_members rest h.2 depth hv, memberTokens]
    simp
end

end Scanner

/-- The text of an exact value is scanned to its tokens, whatever the layout. -/
theorem scan_text (l : Layout) {v : Value} (h : v.IsExact) :
    scan (v.text l).toList = v.tokens := by
  have hsettled := Scanner.settled_pieces l v h 0 []
  rw [Value.text, String.toList_ofList, scan]
  show (Scanner.readPieces l ⟨.between, []⟩ (v.pieces 0)).finish.reverse = _
  rw [hsettled.finish, List.append_nil, List.reverse_reverse]

end SearchQuery.Json
