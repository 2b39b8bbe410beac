import SearchQuery.CommandLine.Config
import SearchQuery.Operator
import SearchQuery.Proofs.Text.Spelling

/-!
# Which texts are tags

Four kinds of names are read from text: operators, group operators, policies and log levels. Each
is compared in lower case with a word of small ASCII letters, so each is accepted in the spellings
of that word, and the blanks around it are dropped for the first two kinds only.

Main statement: `tags_up_to_case`.
-/

namespace SearchQuery

open Text

/-! ## Values found by their names -/

section
variable {α : Type} {all : List α} {name : α → String}

/-- Values that are read back from their names differ in them. -/
theorem name_inj {read : String → Option α} (hread : ∀ a, read (name a) = some a) (a b : α)
    (h : name a = name b) : a = b := by
  rw [← Option.some_inj, ← hread a, ← hread b, h]

/-- Of values that differ in their names the one with this name is found. -/
theorem find?_name_eq_some_iff (hname : ∀ a b, name a = name b → a = b) (hall : ∀ a, a ∈ all)
    {spelled : List Char} {a : α} :
    (all.find? fun a => (name a).toList = spelled) = some a ↔ (name a).toList = spelled := by
  constructor
  · intro h
    simpa using List.find?_some h
  · intro h
    have hsome : (all.find? fun a => (name a).toList = spelled).isSome = true :=
      List.find?_isSome.mpr ⟨a, hall a, by simpa using h⟩
    obtain ⟨b, hb⟩ := Option.isSome_iff_exists.mp hsome
    have hspelled : (name b).toList = spelled := by simpa using List.find?_some hb
    rw [hb, hname b a (String.toList_inj.mp (hspelled.trans h.symm))]

end

/-! ## Names in lower case -/

theorem Operator.mem_all (o : Operator) : o ∈ all := by cases o <;> decide

theorem Operator.tag_inj (a b : Operator) (h : a.tag = b.tag) : a = b :=
  name_inj ofTag?_tag a b h

/-- A tag names the operator whose own tag it is without blanks and in lower case. -/
theorem Operator.ofTag?_eq_some_iff {tag : String} {o : Operator} :
    ofTag? tag = some o ↔ o.tag.toList = lower (trim tag.toList) :=
  find?_name_eq_some_iff tag_inj mem_all

theorem Operator.isPlain_tag (o : Operator) :
    (∀ d ∈ o.tag.toList, IsPlain d) ∧ 'k' ∉ o.tag.toList := by
  rw [← all_isPlain_iff]
  cases o <;> decide

theorem GroupOperator.ofText?_eq_some_iff {text : String} {o : GroupOperator} :
    ofText? text = some o ↔ o.keyword.toList = lower (trim text.toList) :=
  find?_name_eq_some_iff (name_inj ofText?_keyword) fun o => by cases o <;> decide

theorem GroupOperator.isPlain_keyword (o : GroupOperator) :
    (∀ d ∈ o.keyword.toList, IsPlain d) ∧ 'k' ∉ o.keyword.toList := by
  rw [← all_isPlain_iff]
  cases o <;> decide

theorem UnsupportedPolicy.ofText?_eq_some_iff {text : String} {p : UnsupportedPolicy} :
    ofText? text = some p ↔ p.keyword.toList = lower text.toList :=
  find?_name_eq_some_iff (name_inj ofText?_keyword) fun p => by cases p <;> decide

theorem UnsupportedPolicy.isPlain_keyword (p : UnsupportedPolicy) :
    ∀ d ∈ p.keyword.toList, IsPlain d := by
  rw [← all_isPlain_iff]
  cases p <;> decide

namespace Config

theorem hasKnownLevel_iff {c : Config} :
    c.hasKnownLevel = true ↔ ∃ level ∈ levels, level.toList = lower c.logLevel.toList := by
  simp [hasKnownLevel]

theorem isPlain_of_mem_levels {level : String} (h : level ∈ levels) :
    (∀ d ∈ level.toList, IsPlain d) ∧ 'k' ∉ level.toList := by
  have hall : ∀ level ∈ levels,
      (level.toList.all fun d => IsPlain d) = true ∧ 'k' ∉ level.toList := by
    decide
  rw [← all_isPlain_iff]
  exact hall level h

/-- The one error about the level is that it is unknown. -/
theorem unknownLevel_mem_errors_iff {c : Config} {name : String} :
    .unknownLevel name ∈ c.errors ↔ c.hasKnownLevel = false ∧ name = c.logLevel := by
  have hdepth : .unknownLevel name ∉ if c.maxDepth = 0 then [ConfigError.zeroDepth] else [] := by
    split <;> simp
  have hpage : .unknownLevel name ∉
      if c.hasNegativePage = true then [ConfigError.negativePage] else [] := by
    split <;> simp
  unfold errors
  rw [List.mem_append, List.mem_append, or_iff_left hpage, or_iff_right hdepth]
  by_cases hknown : c.hasKnownLevel = true
  · simp [hknown]
  · simp [hknown]

end Config

/-! ## Spellings -/

/-- Without the blanks at its ends a text has a word for its lower case if what is left is the
word up to the case of ASCII letters. -/
theorem eq_lower_trim_iff {text word : List Char}
    (hword : (∀ d ∈ word, IsPlain d) ∧ 'k' ∉ word) :
    word = lower (trim text) ↔ ∃ core, IsCore text core ∧ List.Forall₂ SameLetter core word := by
  rw [eq_comm, lower_eq_iff_of_notMem hword.1 hword.2]
  simp only [← trim_eq_iff, exists_eq_left']

/-- Where a value is named by spellings of its word between blanks, nothing that holds a character
beyond ASCII between its blanks names one. -/
theorem eq_none_of_not_isAscii {α : Type} {found : Option α} {word : α → List Char}
    {text core : List Char} (hword : ∀ a, ∀ d ∈ word a, IsPlain d)
    (hfound : ∀ a, found = some a ↔
      ∃ core, IsCore text core ∧ List.Forall₂ SameLetter core (word a))
    (hcore : IsCore text core) (hbeyond : ∃ c ∈ core, ¬IsAscii c) : found = none := by
  obtain ⟨c, hc, hbeyond⟩ := hbeyond
  rw [Option.eq_none_iff_forall_ne_some]
  intro a ha
  obtain ⟨core', hcore', hsame⟩ := (hfound a).mp ha
  -- a text has one core
  have heq : core' = core := hcore'.trim_eq.symm.trans hcore.trim_eq
  rw [heq] at hsame
  exact hbeyond (isAscii_of_sameLetter (hword a) hsame c hc)

theorem Operator.ofTag?_eq_some_iff_sameLetter (text : String) (o : Operator) :
    ofTag? text = some o ↔
      ∃ core, IsCore text.toList core ∧ List.Forall₂ SameLetter core o.tag.toList := by
  rw [ofTag?_eq_some_iff, eq_lower_trim_iff o.isPlain_tag]

theorem GroupOperator.ofText?_eq_some_iff_sameLetter (text : String) (o : GroupOperator) :
    ofText? text = some o ↔
      ∃ core, IsCore text.toList core ∧ List.Forall₂ SameLetter core o.keyword.toList := by
  rw [ofText?_eq_some_iff, eq_lower_trim_iff o.isPlain_keyword]

theorem UnsupportedPolicy.ofText?_eq_some_iff_spells (text : String) (p : UnsupportedPolicy) :
    ofText? text = some p ↔ List.Forall₂ Spells text.toList p.keyword.toList := by
  rw [ofText?_eq_some_iff, eq_comm, lower_eq_iff p.isPlain_keyword]

theorem UnsupportedPolicy.ofText?_eq_none {text : String}
    (h : ∃ c ∈ text.toList, ¬IsAscii c ∧ c ≠ '\u212A') : ofText? text = none := by
  obtain ⟨c, hc, hbeyond, hkelvin⟩ := h
  rw [Option.eq_none_iff_forall_ne_some]
  intro p hp
  have hspells := (ofText?_eq_some_iff_spells text p).mp hp
  exact (isAscii_of_spells p.isPlain_keyword hspells c hc).elim hbeyond hkelvin

theorem Config.unknownLevel_notMem_errors_iff (c : Config) :
    (∀ name, .unknownLevel name ∉ c.errors) ↔
      ∃ level ∈ levels, List.Forall₂ SameLetter c.logLevel.toList level.toList := by
  have hknown : (∀ name, .unknownLevel name ∉ c.errors) ↔ c.hasKnownLevel = true := by
    simp [unknownLevel_mem_errors_iff]
  rw [hknown, hasKnownLevel_iff]
  refine exists_congr fun level => and_congr_right fun hlevel => ?_
  obtain ⟨hplain, hk⟩ := isPlain_of_mem_levels hlevel
  rw [eq_comm, lower_eq_iff_of_notMem hplain hk]

theorem Config.unknownLevel_mem_errors {c : Config} (h : ∃ d ∈ c.logLevel.toList, ¬IsAscii d) :
    .unknownLevel c.logLevel ∈ c.errors := by
  obtain ⟨d, hd, hbeyond⟩ := h
  rw [unknownLevel_mem_errors_iff, Bool.eq_false_iff]
  refine ⟨fun hknown => ?_, rfl⟩
  have hnone : ∀ name, .unknownLevel name ∉ c.errors := by
    simp [unknownLevel_mem_errors_iff, hknown]
  obtain ⟨level, hlevel, hsame⟩ := (unknownLevel_notMem_errors_iff c).mp hnone
  exact hbeyond (isAscii_of_sameLetter (isPlain_of_mem_levels hlevel).1 hsame d hd)

/-! ## The four languages -/

/-- An operator and a group operator are named by their tags between blanks and up to the case of
ASCII letters; a policy by its keyword without blanks around it, where moreover the Kelvin sign
does for a `k`; and a log level is known by its name without blanks around it. No character beyond
ASCII stands in any other place. The blanks are the characters of White_Space. -/
theorem tags_up_to_case :
    (∀ (text : String) (o : Operator), Operator.ofTag? text = some o ↔
      ∃ core, IsCore text.toList core ∧ List.Forall₂ SameLetter core o.tag.toList) ∧
    (∀ (text : String) (o : GroupOperator), GroupOperator.ofText? text = some o ↔
      ∃ core, IsCore text.toList core ∧ List.Forall₂ SameLetter core o.keyword.toList) ∧
    (∀ (text : String) (p : UnsupportedPolicy), UnsupportedPolicy.ofText? text = some p ↔
      List.Forall₂ (fun c d => SameLetter c d ∨ c = '\u212A' ∧ d = 'k')
        text.toList p.keyword.toList) ∧
    (∀ c : Config, (∀ name, .unknownLevel name ∉ c.errors) ↔
      ∃ level ∈ ["error", "warn", "info", "debug", "trace"],
        List.Forall₂ SameLetter c.logLevel.toList level.toList) ∧
    (∀ (text : String) (core : List Char), IsCore text.toList core → (∃ c ∈ core, ¬IsAscii c) →
      Operator.ofTag? text = none ∧ GroupOperator.ofText? text = none) ∧
    (∀ text : String, (∃ c ∈ text.toList, ¬IsAscii c ∧ c ≠ '\u212A') →
      UnsupportedPolicy.ofText? text = none) ∧
    (∀ c : Config, (∃ d ∈ c.logLevel.toList, ¬IsAscii d) →
      .unknownLevel c.logLevel ∈ c.errors) ∧
    ∀ c : Char, isBlank c = true ↔
      0x09 ≤ c.toNat ∧ c.toNat ≤ 0x0D ∨ c.toNat ∈ [0x20, 0x85, 0xA0, 0x1680] ∨
        0x2000 ≤ c.toNat ∧ c.toNat ≤ 0x200A ∨
        c.toNat ∈ [0x2028, 0x2029, 0x202F, 0x205F, 0x3000] := by
  refine ⟨Operator.ofTag?_eq_some_iff_sameLetter, GroupOperator.ofText?_eq_some_iff_sameLetter,
    UnsupportedPolicy.ofText?_eq_some_iff_spells, Config.unknownLevel_notMem_errors_iff, ?_,
    fun _ => UnsupportedPolicy.ofText?_eq_none,
    fun _ => Config.unknownLevel_mem_errors, fun _ => isBlank_iff⟩
  intro text core hcore hbeyond
  constructor
  · exact eq_none_of_not_isAscii (fun o => o.isPlain_tag.1)
      (Operator.ofTag?_eq_some_iff_sameLetter text) hcore hbeyond
  · exact eq_none_of_not_isAscii (fun o => o.isPlain_keyword.1)
      (GroupOperator.ofText?_eq_some_iff_sameLetter text) hcore hbeyond

/-- The Kelvin sign does for a `k`, but the capital `i` with a dot is no `i`. -/
theorem tags_up_to_case_dotted :
    UnsupportedPolicy.ofText? "S\u212AiP" = some .skip ∧
    IsCore "\u00A0Conta\u0130ns\n".toList "Conta\u0130ns".toList ∧
    Operator.ofTag? "\u00A0Conta\u0130ns\n" = none ∧
    UnsupportedPolicy.ofText? "sk\u0130p" = none ∧
    .unknownLevel "\u0130nfo" ∈ (Config.mk (.byId "7") false 32 .fail "\u0130nfo").errors := by
  obtain ⟨-, -, hpolicy, -, hcore, hbeyond, hlevel, -⟩ := tags_up_to_case
  have hcontains : IsCore "\u00A0Conta\u0130ns\n".toList "Conta\u0130ns".toList := by
    refine ⟨⟨['\u00A0'], ['\n'], by decide, ?_, ?_⟩, ?_, ?_⟩ <;> simp <;> decide
  refine ⟨(hpolicy _ _).mpr ?_, hcontains, (hcore _ _ hcontains ?_).1, hbeyond _ ?_, hlevel _ ?_⟩
  · exact .cons (.inl (.capital (by decide) rfl)) (.cons (.inr ⟨rfl, rfl⟩)
      (.cons (.inl (.same 'i')) (.cons (.inl (.capital (by decide) rfl)) .nil)))
  · exact ⟨'\u0130', by decide, by decide⟩
  · exact ⟨'\u0130', by decide, by decide, by decide⟩
  · exact ⟨'\u0130', by decide, by decide⟩

end SearchQuery
