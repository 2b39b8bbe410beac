import SearchQuery.CommandLine.Run
import SearchQuery.Proofs.Json.Blanks
import SearchQuery.Proofs.Rendering

/-!
# What the layout of the output changes

Whether the output is compact plays no part until a command has its answer: the answer is a request,
which is then laid out, or a list of fields, which has no layout. So the two outputs of a command
differ in blanks outside the literals at most, and nothing else of its run differs at all.

Main statement: `compact_deletes_only_blanks`.
-/

namespace SearchQuery

open Json

/-! ## Requests -/

/-- Whatever the layout of a request, without the blanks outside the literals it is compact. -/
theorem SearchRequest.withoutBlanks_text (l : Layout) (r : SearchRequest) :
    withoutBlanks (r.text l) = r.text .compact :=
  Value.withoutBlanks_text l r.isExact_json

/-! ## Answers -/

/-- What a command comes to before it is laid out. -/
inductive Answer where
  | request (r : SearchRequest)
  /-- The field paths of a mapping, one on a line. -/
  | listing (lines : String)

/-- The output of an answer. -/
def Answer.text (l : Layout) : Answer → String
  | request r => r.text l
  | listing lines => lines

namespace Config

/-- Runs a command as far as its answer. -/
def answer (c : Config) (input : Option String) : Run RunError Answer :=
  match c.command with
  | .compile path => do
    let text ← read (.ofPath path) input
    let query ← .ofExcept ((Shape.query.ofText text).mapError .badQuery)
    let request ← (query.compile c.compileOptions).mapError .compile
    return .request request
  | .ids ids => return .request (.ofIds ids)
  | .byId id => return .request (.ofId id)
  | .all size => return .request (.everything size)
  | .fields path start => do
    let text ← read (.ofPath path) input
    match Value.ofText? maxOpen text with
    | none => .fail .badMapping
    | some mapping =>
      let paths := match start with
        | some start => FieldPath.ofMappingAt mapping start
        | none => FieldPath.ofMapping mapping
      .report (.foundPaths paths.length)
      return .listing ("\n".intercalate (paths.map fieldLine))

/-- A run ends with the output of its answer. -/
theorem run_eq (c : Config) (input : Option String) :
    c.run input = do
      let answer ← c.answer input
      return answer.text c.layout := by
  unfold run answer
  cases c.command with
  | compile path => simp only [bind_assoc, pure_bind]; rfl
  | fields path start =>
    rw [bind_assoc]
    refine congrArg (read (.ofPath path) input >>= ·) (funext fun text => ?_)
    cases Value.ofText? maxOpen text with
    | none => rfl
    | some mapping => rfl
  | _ => rfl

/-- Where the output is compact or not, the answer is the same. -/
theorem answer_compact (c : Config) (compact : Bool) (input : Option String) :
    { c with compact }.answer input = c.answer input := rfl

theorem events_run (c : Config) (input : Option String) :
    (c.run input).events = (c.answer input).events := by
  rw [run_eq, Run.events_bind_pure]

theorem result_run (c : Config) (input : Option String) :
    (c.run input).result = (c.answer input).result.map (Answer.text c.layout) := by
  rw [run_eq, Run.result_bind]
  rfl

/-- A command lists fields or makes a request. -/
theorem answer_cases {c : Config} {input : Option String} {a : Answer}
    (h : (c.answer input).result = .ok a) :
    match c.command with
    | .fields _ _ => ∃ lines, a = .listing lines
    | _ => ∃ r, a = .request r := by
  unfold answer at h
  cases hc : c.command with
  | compile path =>
    rw [hc] at h
    obtain ⟨text, -, h⟩ := Run.result_bind_eq_ok_iff.mp h
    obtain ⟨query, -, h⟩ := Run.result_bind_eq_ok_iff.mp h
    obtain ⟨r, -, hr⟩ := Run.result_bind_eq_ok_iff.mp h
    exact ⟨r, (Except.ok.inj hr).symm⟩
  | fields path start =>
    rw [hc] at h
    obtain ⟨text, -, h⟩ := Run.result_bind_eq_ok_iff.mp h
    dsimp only at h
    split at h
    · cases h
    · obtain ⟨-, -, hlines⟩ := Run.result_bind_eq_ok_iff.mp h
      exact ⟨_, (Except.ok.inj hlines).symm⟩
  | ids | byId | all =>
    rw [hc] at h
    exact ⟨_, (Except.ok.inj h).symm⟩

end Config

/-! ## Two layouts -/

/-- Without the blanks outside its literals the text of a request is its compact text. So of two
runs of a command that differ in the layout, either both fail with the same error, or both succeed
with outputs that are the same without such blanks, and for a listing of fields the same as they
are; and both report the same events. -/
theorem compact_deletes_only_blanks :
    (∀ r : SearchRequest, withoutBlanks (r.text .indented) = r.text .compact) ∧
    ∀ (c : Config) (compact : Bool) (input : Option String),
      ((∃ e, (c.run input).result = .error e ∧
          ({ c with compact }.run input).result = .error e) ∨
        ∃ output output', (c.run input).result = .ok output ∧
          ({ c with compact }.run input).result = .ok output' ∧
          match c.command with
          | .fields _ _ => output = output'
          | _ => withoutBlanks output = withoutBlanks output') ∧
      ({ c with compact }.run input).events = (c.run input).events := by
  refine ⟨SearchRequest.withoutBlanks_text .indented, fun c compact input => ⟨?_, ?_⟩⟩
  · have hrun := Config.result_run { c with compact } input
    rw [Config.answer_compact] at hrun
    rw [hrun, Config.result_run]
    cases h : (c.answer input).result with
    | error e => exact Or.inl ⟨e, rfl, rfl⟩
    | ok a =>
      refine Or.inr ⟨_, _, rfl, rfl, ?_⟩
      have hanswer := Config.answer_cases h
      revert hanswer
      cases c.command with
      | fields =>
        rintro ⟨lines, rfl⟩
        rfl
      | compile | ids | byId | all =>
        rintro ⟨r, rfl⟩
        show withoutBlanks (r.text _) = withoutBlanks (r.text _)
        rw [r.withoutBlanks_text, r.withoutBlanks_text]
  · have hrun := Config.events_run { c with compact } input
    rw [Config.answer_compact] at hrun
    rw [hrun, Config.events_run]

end SearchQuery
