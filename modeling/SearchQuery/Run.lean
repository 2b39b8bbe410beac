import SearchQuery.Json.Basic
import SearchQuery.Query.Basic

/-!
# What a run reports

Events are data: a run yields the list of them beside its result, also if it fails.
-/

namespace SearchQuery

open Json

/-- How important an event is. -/
inductive Level where
  | trace
  | debug
  | info
  | warn
  deriving DecidableEq, Repr

/-- The level in capitals. -/
def Level.name : Level → String
  | trace => "TRACE"
  | debug => "DEBUG"
  | info => "INFO"
  | warn => "WARN"

/-- The events a run reports. -/
inductive Event where
  /-- A condition was dropped for its operator. -/
  | skipped (field tag : String)
  /-- A nested group is about to be compiled. -/
  | entered (depth : Nat) (operator : GroupOperator)
  | compiled (conditions sortKeys : Nat) (kind : String)
  | readingFile (path : String)
  | readingInput
  | foundPaths (count : Nat)
  deriving DecidableEq, Repr

namespace Event

/-- How important the event is. -/
def level : Event → Level
  | skipped .. => .warn
  | entered .. => .trace
  | compiled .. => .debug
  | readingFile _ => .debug
  | readingInput => .debug
  | foundPaths _ => .info

/-- What has happened. -/
def message : Event → String
  | skipped .. => "Skipping condition with unsupported operator"
  | entered .. => "Compiling nested group"
  | compiled .. => "Compiled query document"
  | readingFile _ => "Reading input file"
  | readingInput => "Reading input from stdin"
  | foundPaths _ => "Extracted mapping field paths"

/-- The particulars. -/
def fields : Event → List (String × Value)
  | skipped field tag => [("field", .string field), ("operator", .string tag)]
  | entered depth operator => [("depth", .int depth), ("operator", .string operator.keyword)]
  | compiled conditions sortKeys kind =>
    [("conditions", .int conditions), ("sort_keys", .int sortKeys), ("query_kind", .string kind)]
  | readingFile path => [("path", .string path)]
  | readingInput => []
  | foundPaths count => [("count", .int count)]

end Event

/-- A run that reports events and may fail; the events up to a failure are kept. -/
structure Run (ε α : Type) where
  events : List Event
  result : Except ε α

namespace Run

variable {ε α β : Type}

/-- Reports one event. -/
def report (e : Event) : Run ε Unit := ⟨[e], .ok ()⟩

/-- A result without events. -/
def ofExcept (r : Except ε α) : Run ε α := ⟨[], r⟩

/-- Fails. -/
def fail (e : ε) : Run ε α := ⟨[], .error e⟩

/-- Goes on with the result, if there is one. -/
def andThen (r : Run ε α) (f : α → Run ε β) : Run ε β :=
  match r.result with
  | .ok a => ⟨r.events ++ (f a).events, (f a).result⟩
  | .error e => ⟨r.events, .error e⟩

instance : Monad (Run ε) where
  pure a := ⟨[], .ok a⟩
  bind := andThen

/-- The same run with another error. -/
def mapError {ε' : Type} (f : ε → ε') (r : Run ε α) : Run ε' α :=
  ⟨r.events, r.result.mapError f⟩

@[simp] theorem result_pure (a : α) : (pure a : Run ε α).result = .ok a := rfl

@[simp] theorem events_pure (a : α) : (pure a : Run ε α).events = [] := rfl

@[simp] theorem result_report (e : Event) : (report e : Run ε Unit).result = .ok () := rfl

@[simp] theorem events_report (e : Event) : (report e : Run ε Unit).events = [e] := rfl

/-- A sequence fails with the first failure. -/
theorem result_bind (r : Run ε α) (f : α → Run ε β) :
    (r >>= f).result = r.result.bind fun a => (f a).result := by
  change (andThen r f).result = _
  unfold andThen
  cases r.result <;> rfl

/-- It fails in its first part or, after that has succeeded, in its second. -/
theorem result_bind_eq_error_iff {r : Run ε α} {f : α → Run ε β} {e : ε} :
    (r >>= f).result = .error e ↔
      r.result = .error e ∨ ∃ a, r.result = .ok a ∧ (f a).result = .error e := by
  rw [result_bind]
  cases r.result <;> simp [Except.bind]

theorem result_bind_eq_ok_iff {r : Run ε α} {f : α → Run ε β} {b : β} :
    (r >>= f).result = .ok b ↔ ∃ a, r.result = .ok a ∧ (f a).result = .ok b := by
  rw [result_bind]
  cases r.result <;> simp [Except.bind]

@[simp] theorem result_report_bind (e : Event) (f : Unit → Run ε β) :
    (report e >>= f).result = (f ()).result := rfl

/-- After a success the events of both runs are reported, after a failure those of the first. -/
theorem events_bind (r : Run ε α) (f : α → Run ε β) :
    (r >>= f).events =
      r.events ++ match r.result with
        | .ok a => (f a).events
        | .error _ => [] := by
  change (andThen r f).events = _
  unfold andThen
  cases r.result <;> simp

/-- Going on without a report adds no event. -/
theorem events_bind_pure (r : Run ε α) (f : α → β) :
    (r >>= fun a => pure (f a)).events = r.events := by
  rw [events_bind]
  cases r.result <;> simp

/-- It does not matter which runs of a sequence are taken together. -/
instance : LawfulMonad (Run ε) :=
  .mk' (Run ε)
    (fun r => by
      change andThen r pure = r
      obtain ⟨events, result⟩ := r
      cases result with
      | ok a => exact congrArg (Run.mk · (.ok a)) (List.append_nil events)
      | error e => rfl)
    (fun _ _ => rfl)
    (fun r f g => by
      change andThen (andThen r f) g = andThen r fun a => andThen (f a) g
      unfold andThen
      cases r.result with
      | ok a => cases h : (f a).result <;> simp [h]
      | error e => rfl)

end Run

end SearchQuery
