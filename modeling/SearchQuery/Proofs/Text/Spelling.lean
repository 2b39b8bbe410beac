import Mathlib.Data.Bool.AllAny
import Mathlib.Data.List.DropRight
import Mathlib.Data.List.Forall2
import SearchQuery.Text.Spelling

/-!
# Spellings of a word

A word of small ASCII letters is the lower case of those texts that differ from it in the case of
ASCII letters only, and of those in which moreover the Kelvin sign stands for a `k`: every other
character beyond ASCII keeps something beyond ASCII in its lower case.

Main statements: `lower_eq_iff` and `trim_eq_iff`.
-/

namespace SearchQuery.Text

/-! ## Up to the case of ASCII letters -/

/-- One character, or an ASCII letter in both its cases. -/
inductive SameLetter : Char → Char → Prop
  | same (c : Char) : SameLetter c c
  | capital {c d : Char} (hc : 'A' ≤ c ∧ c ≤ 'Z') (hd : d.toNat = c.toNat + 32) : SameLetter c d
  | small {c d : Char} (hd : 'A' ≤ d ∧ d ≤ 'Z') (hc : c.toNat = d.toNat + 32) : SameLetter c d

/-- A character of ASCII. -/
def IsAscii (c : Char) : Prop := c.toNat < 0x80

/-- A character of ASCII that is no capital letter. -/
def IsPlain (c : Char) : Prop := IsAscii c ∧ ¬('A' ≤ c ∧ c ≤ 'Z')

instance : DecidablePred IsAscii := fun c => inferInstanceAs (Decidable (c.toNat < 0x80))

instance : DecidablePred IsPlain := fun _ => instDecidableAnd

theorem all_isPlain_iff {word : List Char} :
    (word.all fun d => IsPlain d) = true ↔ ∀ d ∈ word, IsPlain d :=
  List.all_iff_forall_prop

/-- The capital letters by their code points. -/
theorem isCapital_iff {c : Char} : 'A' ≤ c ∧ c ≤ 'Z' ↔ 65 ≤ c.toNat ∧ c.toNat ≤ 90 := Iff.rfl

theorem toNat_toLower (c : Char) :
    c.toLower.toNat = if 65 ≤ c.toNat ∧ c.toNat ≤ 90 then c.toNat + 32 else c.toNat := by
  unfold Char.toLower
  by_cases h : c.val ≥ 'A'.val ∧ c.val ≤ 'Z'.val
  · have hcapital : 65 ≤ c.toNat ∧ c.toNat ≤ 90 := h
    rw [dif_pos h, if_pos hcapital]
    show (c.val + 32).toNat = c.val.toNat + 32
    have hval : c.val.toNat ≤ 90 := hcapital.2
    rw [UInt32.toNat_add]
    exact Nat.mod_eq_of_lt (show c.val.toNat + 32 < 2 ^ 32 by omega)
  · have hcapital : ¬(65 ≤ c.toNat ∧ c.toNat ≤ 90) := h
    rw [dif_neg h, if_neg hcapital]

/-- A letter whose other case is ASCII is ASCII. -/
theorem SameLetter.isAscii {c d : Char} (h : SameLetter c d) (hd : IsAscii d) : IsAscii c := by
  unfold IsAscii at hd ⊢
  cases h with
  | same => exact hd
  | capital hc => rw [isCapital_iff] at hc; omega
  | small hd' hc => rw [isCapital_iff] at hd'; omega

/-- Of an ASCII character the small letter is the one of its two cases that is no capital. -/
theorem toLower_eq_iff {c d : Char} (hd : IsPlain d) : c.toLower = d ↔ SameLetter c d := by
  obtain ⟨-, hsmall⟩ := hd
  rw [isCapital_iff] at hsmall
  rw [← Char.toNat_inj, toNat_toLower]
  constructor
  · intro h
    by_cases hc : 65 ≤ c.toNat ∧ c.toNat ≤ 90
    · rw [if_pos hc] at h
      exact .capital hc h.symm
    · rw [if_neg hc, Char.toNat_inj] at h
      exact h ▸ .same c
  · intro h
    cases h with
    | same => rw [if_neg hsmall]
    | capital hc hd => rw [if_pos (isCapital_iff.mp hc), hd]
    | small hd' => exact absurd hd' hsmall

/-! ## The lower case of one character -/

/-- A character whose lower case is this plain one. -/
def Spells (c d : Char) : Prop := SameLetter c d ∨ c = '\u212A' ∧ d = 'k'

theorem lowerChar_of_isAscii {c : Char} (h : IsAscii c) : lowerChar c = [c.toLower] := if_pos h

theorem lowerChar_kelvin : lowerChar '\u212A' = ['k'] := by decide +kernel

theorem lowerChar_dotted : lowerChar '\u0130' = ['i', '\u0307'] := by decide

theorem not_isAscii_ofNat {n : Nat} (h : 0x80 ≤ n)
    (hvalid : n < 0xD800 ∨ 0xDFFF < n ∧ n < 0x110000) : ¬IsAscii (Char.ofNat n) := by
  have hn : (Char.ofNat n).toNat = n := by
    rw [Char.ofNat, dif_pos hvalid]
    rfl
  unfold IsAscii
  omega

/-- The small letter of a capital beyond ASCII, but for the Kelvin sign, is beyond ASCII. -/
theorem CapitalRun.not_isAscii_small {r : CapitalRun} (hr : r ∈ capitalRuns) {n m : Nat}
    (h : r.small? n = some m) (hn : n ≠ 0x212A) : ¬IsAscii (Char.ofNat m) := by
  have hall := List.all_eq_true.mp capitalRuns_outside_ascii r hr
  simp only [Bool.or_eq_true, Bool.and_eq_true, decide_eq_true_eq] at hall
  unfold small? at h
  split at h
  · next hrun =>
    obtain rfl := Option.some.inj h
    rcases hall with hkelvin | ⟨hbeyond, hvalid⟩
    · omega
    · apply not_isAscii_ofNat
      · omega
      · omega
  · cases h

/-- Beyond ASCII a character has one character beyond ASCII for its lower case, but for two. -/
theorem lowerChar_of_not_isAscii {c : Char} (h : ¬IsAscii c) (hkelvin : c ≠ '\u212A')
    (hdotted : c ≠ '\u0130') : ∃ d, lowerChar c = [d] ∧ ¬IsAscii d := by
  have hbeyond : ¬c.toNat < 0x80 := h
  rw [lowerChar, if_neg hbeyond, if_neg hdotted]
  cases hsmall : capitalRuns.findSome? (·.small? c.toNat) with
  | none => exact ⟨c, rfl, h⟩
  | some n =>
    obtain ⟨r, hr, hn⟩ := List.exists_of_findSome?_eq_some hsmall
    have hne : c.toNat ≠ 0x212A := fun he => hkelvin (Char.toNat_inj.mp he)
    exact ⟨Char.ofNat n, rfl, CapitalRun.not_isAscii_small hr hn hne⟩

/-- The capital sigma has two small letters, both beyond ASCII. -/
theorem not_isAscii_lowerSigma (before after : List Char) : ¬IsAscii (lowerSigma before after) := by
  unfold lowerSigma
  split <;> decide

/-- Where a text in lower case begins with a plain character, so does the text, in one of its
spellings. -/
theorem lowerAt_append_eq_cons_iff {before after rest tail : List Char} {c d : Char}
    (hd : IsPlain d) (hrest : ∀ e ∈ rest, IsPlain e) :
    lowerAt before c after ++ tail = d :: rest ↔ Spells c d ∧ tail = rest := by
  -- whatever has a single character beyond ASCII for its lower case is no spelling of anything
  have hbeyond {e : Char} (hc : ¬IsAscii c) (hkelvin : c ≠ '\u212A') (he : ¬IsAscii e) :
      [e] ++ tail = d :: rest ↔ Spells c d ∧ tail = rest := by
    constructor
    · intro h
      rw [List.singleton_append, List.cons.injEq] at h
      exact absurd (h.1 ▸ hd.1) he
    · intro ⟨hspells, _⟩
      rcases hspells with hsame | ⟨hc', -⟩
      · exact absurd (hsame.isAscii hd.1) hc
      · exact absurd hc' hkelvin
  unfold lowerAt
  by_cases hsigma : c = '\u03A3'
  · rw [if_pos hsigma]
    subst hsigma
    exact hbeyond (by decide) (by decide) (not_isAscii_lowerSigma before after)
  rw [if_neg hsigma]
  by_cases hascii : IsAscii c
  · rw [lowerChar_of_isAscii hascii, List.singleton_append, List.cons.injEq, toLower_eq_iff hd]
    have hkelvin : c ≠ '\u212A' := fun h => absurd (h ▸ hascii) (by decide)
    simp [Spells, hkelvin]
  by_cases hkelvin : c = '\u212A'
  · subst hkelvin
    have hsame : ¬SameLetter '\u212A' d := fun h => absurd (h.isAscii hd.1) (by decide)
    rw [lowerChar_kelvin, List.singleton_append, List.cons.injEq]
    simp [Spells, hsame, eq_comm]
  by_cases hdotted : c = '\u0130'
  · subst hdotted
    constructor
    · intro h
      -- the dot of the capital is left over
      rw [lowerChar_dotted, List.cons_append, List.cons.injEq] at h
      exact absurd (hrest '\u0307' (h.2 ▸ List.mem_cons_self)) (by decide)
    · intro ⟨hspells, _⟩
      rcases hspells with hsame | ⟨hc, -⟩
      · exact absurd (hsame.isAscii hd.1) hascii
      · exact absurd hc hkelvin
  · obtain ⟨e, he, hbeyond'⟩ := lowerChar_of_not_isAscii hascii hkelvin hdotted
    rw [he]
    exact hbeyond hascii hkelvin hbeyond'

theorem lowerAt_ne_nil (before : List Char) (c : Char) (after : List Char) :
    lowerAt before c after ≠ [] := by
  unfold lowerAt lowerChar
  split_ifs
  · simp
  · simp
  · simp
  · split <;> simp

/-! ## The lower case of a text -/

theorem behind_eq_iff {before cs word : List Char} (hword : ∀ d ∈ word, IsPlain d) :
    lower.behind before cs = word ↔ List.Forall₂ Spells cs word := by
  -- the characters before the next one decide which small sigma it is, but never whether it is plain
  induction cs generalizing before word with
  | nil => rw [lower.behind, List.forall₂_nil_left_iff, eq_comm]
  | cons c after ih =>
    rw [lower.behind]
    cases word with
    | nil =>
      rw [List.forall₂_nil_right_iff, List.append_eq_nil_iff]
      simp [lowerAt_ne_nil]
    | cons d rest =>
      have hd : IsPlain d := hword d List.mem_cons_self
      have hrest : ∀ e ∈ rest, IsPlain e := fun e he => hword e (List.mem_cons_of_mem d he)
      rw [lowerAt_append_eq_cons_iff hd hrest, List.forall₂_cons, ih hrest]

/-- The texts with a plain word for their lower case. -/
theorem lower_eq_iff {cs word : List Char} (hword : ∀ d ∈ word, IsPlain d) :
    lower cs = word ↔ List.Forall₂ Spells cs word :=
  behind_eq_iff hword

/-- Without a `k` in the word there are no others than those up to the case of ASCII letters. -/
theorem lower_eq_iff_of_notMem {cs word : List Char} (hword : ∀ d ∈ word, IsPlain d)
    (hk : 'k' ∉ word) : lower cs = word ↔ List.Forall₂ SameLetter cs word := by
  rw [lower_eq_iff hword]
  constructor
  · intro h
    induction h with
    | nil => exact .nil
    | @cons c d cs rest hspells _ ih =>
      have hd : d ≠ 'k' := fun he => hk (he ▸ List.mem_cons_self)
      have hsame : SameLetter c d := hspells.resolve_right fun hkelvin => hd hkelvin.2
      exact .cons hsame (ih (fun e he => hword e (List.mem_cons_of_mem d he))
        fun he => hk (List.mem_cons_of_mem d he))
  · intro h
    exact h.imp fun _ _ => Or.inl

/-- Each character of one text has the property that its partner in the other gives it. -/
theorem forall_of_forall₂ {R : Char → Char → Prop} {P : Char → Prop} {cs word : List Char}
    (h : List.Forall₂ R cs word) (hR : ∀ c, ∀ d ∈ word, R c d → P c) : ∀ c ∈ cs, P c := by
  induction h with
  | nil => exact fun c hc => absurd hc List.not_mem_nil
  | @cons c d cs rest hcd _ ih =>
    rw [List.forall_mem_cons]
    exact ⟨hR c d List.mem_cons_self hcd,
      ih fun e f hf => hR e f (List.mem_cons_of_mem d hf)⟩

/-- Up to the case of ASCII letters nothing beyond ASCII spells a plain word. -/
theorem isAscii_of_sameLetter {cs word : List Char} (hword : ∀ d ∈ word, IsPlain d)
    (h : List.Forall₂ SameLetter cs word) : ∀ c ∈ cs, IsAscii c :=
  forall_of_forall₂ h fun _ d hd hsame => hsame.isAscii (hword d hd).1

/-- Nothing beyond ASCII spells a plain word, but for the Kelvin sign. -/
theorem isAscii_of_spells {cs word : List Char} (hword : ∀ d ∈ word, IsPlain d)
    (h : List.Forall₂ Spells cs word) : ∀ c ∈ cs, IsAscii c ∨ c = '\u212A' :=
  forall_of_forall₂ h fun _ d hd hspells =>
    hspells.imp (fun hsame => hsame.isAscii (hword d hd).1) And.left

/-! ## Blanks at the ends -/

/-- What is left of a text without the blanks at its ends. -/
structure IsCore (text core : List Char) : Prop where
  between : ∃ before after, text = before ++ core ++ after ∧
    (∀ c ∈ before, isBlank c = true) ∧ ∀ c ∈ after, isBlank c = true
  head : ∀ c ∈ core.head?, isBlank c = false
  last : ∀ c ∈ core.getLast?, isBlank c = false

theorem isCore_trim (text : List Char) : IsCore text (trim text) := by
  -- the text without the blanks it begins with, from which those it ends with are taken then
  obtain ⟨rest, hdrop⟩ : ∃ rest, text.dropWhile isBlank = rest := ⟨_, rfl⟩
  have htrim : trim text = rest.rdropWhile isBlank := by rw [← hdrop]; rfl
  have htext : text.takeWhile isBlank ++ rest = text := by
    rw [← hdrop, List.takeWhile_append_dropWhile]
  have hrest : rest.rdropWhile isBlank ++ rest.rtakeWhile isBlank = rest :=
    List.rdropWhile_append_rtakeWhile
  rw [htrim]
  refine ⟨⟨text.takeWhile isBlank, rest.rtakeWhile isBlank, ?_, ?_, ?_⟩, ?_, ?_⟩
  · rw [List.append_assoc, hrest, htext]
  · intro c hc
    exact List.mem_takeWhile_imp hc
  · intro c hc
    exact List.mem_rtakeWhile_imp hc
  · intro c hc
    obtain ⟨cs, hcs⟩ := List.head?_eq_some_iff.mp hc
    have hhead := List.head?_dropWhile_not isBlank text
    rw [hdrop, ← hrest, hcs] at hhead
    exact hhead
  · intro c hc
    obtain ⟨cs, hcs⟩ := List.getLast?_eq_some_iff.mp hc
    have hne : rest.rdropWhile isBlank ≠ [] := by simp [hcs]
    have hlast := List.rdropWhile_last_not isBlank rest hne
    simpa [hcs] using hlast

/-- Blanks before what begins with none are dropped, and nothing else. -/
theorem dropWhile_blanks {before rest : List Char} (hbefore : ∀ c ∈ before, isBlank c = true)
    (hhead : ∀ c ∈ rest.head?, isBlank c = false) :
    (before ++ rest).dropWhile isBlank = rest := by
  rw [List.dropWhile_append_of_pos hbefore]
  cases rest with
  | nil => rfl
  | cons c cs => exact List.dropWhile_cons_of_neg (by simp [hhead c rfl])

theorem IsCore.trim_eq {text core : List Char} (h : IsCore text core) : trim text = core := by
  obtain ⟨⟨before, after, rfl, hbefore, hafter⟩, hhead, hlast⟩ := h
  unfold trim
  by_cases hcore : core = []
  · -- all of the text is blank
    subst hcore
    have hall : ∀ c ∈ before ++ [] ++ after, isBlank c = true := by
      intro c hc
      rw [List.append_nil] at hc
      exact (List.mem_append.mp hc).elim (hbefore c) (hafter c)
    rw [List.dropWhile_eq_nil_iff.mpr hall]
    rfl
  · have hhead' : ∀ c ∈ (core ++ after).head?, isBlank c = false := by
      rw [List.head?_append_of_ne_nil core hcore]
      exact hhead
    have hafter' : ∀ c ∈ after.reverse, isBlank c = true := by
      intro c hc
      exact hafter c (List.mem_reverse.mp hc)
    have hlast' : ∀ c ∈ core.reverse.head?, isBlank c = false := by
      rw [List.head?_reverse]
      exact hlast
    rw [List.append_assoc, dropWhile_blanks hbefore hhead', List.reverse_append,
      dropWhile_blanks hafter' hlast', List.reverse_reverse]

/-- Trimming leaves the core of a text, of which there is just one. -/
theorem trim_eq_iff {text core : List Char} : trim text = core ↔ IsCore text core :=
  ⟨fun h => h ▸ isCore_trim text, IsCore.trim_eq⟩

end SearchQuery.Text
