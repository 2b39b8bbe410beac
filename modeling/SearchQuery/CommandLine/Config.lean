import SearchQuery.Query.Basic
import SearchQuery.Text.Spelling

/-!
# Configurations of the command line

A configuration that could be read may still be unusable; then all its errors are reported, not
only the first.
-/

namespace SearchQuery

/-- What is to be produced. -/
inductive Command where
  | compile (input : Option String)
  | ids (ids : List String)
  | byId (id : String)
  | all (size : Int64)
  | fields (mapping : Option String) (start : Option String)
  deriving DecidableEq, Repr

/-- A command and how to run it. -/
structure Config where
  command : Command
  compact : Bool := false
  maxDepth : UInt64 := 32
  onUnsupported : UnsupportedPolicy := .fail
  logLevel : String := "warn"
  deriving DecidableEq, Repr

/-- What makes a configuration unusable. -/
inductive ConfigError where
  | zeroDepth
  | unknownLevel (name : String)
  | negativePage
  deriving DecidableEq, Repr

/-- The error's message. -/
def ConfigError.message : ConfigError → String
  | zeroDepth => "Max depth cannot be 0"
  | unknownLevel name => s!"Unknown log level: {name}"
  | negativePage => "Page size for 'all' cannot be negative"

namespace Config

/-- The names of the log levels, the most severe first. -/
def levels : List String := ["error", "warn", "info", "debug", "trace"]

/-- The log level is one of those known, whatever its case. -/
def hasKnownLevel (c : Config) : Bool :=
  levels.any fun name => name.toList = Text.lower c.logLevel.toList

/-- The page to be scanned has a negative size. -/
def hasNegativePage (c : Config) : Bool :=
  match c.command with
  | .all size => size < 0
  | _ => false

/-- All errors of a configuration, in a fixed order. -/
def errors (c : Config) : List ConfigError :=
  (if c.maxDepth = 0 then [.zeroDepth] else []) ++
    (if c.hasKnownLevel then [] else [.unknownLevel c.logLevel]) ++
    (if c.hasNegativePage then [.negativePage] else [])

/-- The options of a compilation. -/
def compileOptions (c : Config) : CompileOptions :=
  { maxDepth := c.maxDepth, onUnsupported := c.onUnsupported }

end Config

end SearchQuery
