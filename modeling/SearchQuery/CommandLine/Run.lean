import SearchQuery.CommandLine.Config
import SearchQuery.Compile.Query
import SearchQuery.Mapping
import SearchQuery.Query.Reader

/-!
# Running a command

A command reads at most one text, and its run is a function of that text.
-/

namespace SearchQuery

open Json

/-- Where a command's text comes from. -/
inductive Input where
  | file (path : String)
  | standard
  deriving DecidableEq, Repr

/-- A path that names the place of a dash, perhaps by steps that stay there. -/
def isDash (path : String) : Bool :=
  match path.toList with
  | '-' :: rest =>
    rest.head?.all (· = '/') &&
      (rest.splitBy fun a b => a ≠ '/' && b ≠ '/').all fun part => part = ['/'] || part = ['.']
  | _ => false

/-- The input at an optional path. -/
def Input.ofPath : Option String → Input
  | some path => if isDash path then standard else file path
  | none => standard

/-- The input's name in messages. -/
def Input.name : Input → String
  | file path => path
  | standard => "stdin"

/-- The event of reading an input. -/
def Input.event : Input → Event
  | file path => .readingFile path
  | standard => .readingInput

/-- The input that a command reads, if any. -/
def Command.input? : Command → Option Input
  | compile path => some (.ofPath path)
  | fields path _ => some (.ofPath path)
  | _ => none

/-- Why a command fails. -/
inductive RunError where
  | unreadable (input : Input)
  | badQuery (cause : ReadError)
  | badMapping
  | compile (e : CompileError)

namespace RunError

/-- The error's message. -/
def message : RunError → String
  | unreadable input => s!"failed to read {input.name}"
  | badQuery _ => "invalid query model JSON"
  | badMapping => "invalid mapping JSON"
  | compile e => e.message

/-- What is wrong with the text that was read. -/
def cause? : RunError → Option ReadError
  | badQuery cause => some cause
  | badMapping => some .malformed
  | _ => none

end RunError

namespace Config

/-- The layout of the output. -/
def layout (c : Config) : Layout := if c.compact then .compact else .indented

/-- The text of an input, `none` if it could not be read. -/
def read (input : Input) (text : Option String) : Run RunError String := do
  .report input.event
  match text with
  | some text => return text
  | none => .fail (.unreadable input)

/-- A path and its type on a line. -/
def fieldLine (p : FieldPath) : String := s!"{p.path}\t{p.type}"

/-- The log level lets events of this importance through. -/
def shows (c : Config) (l : Level) : Bool :=
  let place (name : String) := levels.findIdx fun known => known.toList = Text.lower name.toList
  place l.name ≤ place c.logLevel

/-- Runs a command on the text of its input. -/
def run (c : Config) (text : Option String) : Run RunError String :=
  match c.command with
  | .compile path => do
    let text ← read (.ofPath path) text
    let query ← .ofExcept ((Shape.query.ofText text).mapError .badQuery)
    let request ← (query.compile c.compileOptions).mapError .compile
    return request.text c.layout
  | .ids ids => return (SearchRequest.ofIds ids).text c.layout
  | .byId id => return (SearchRequest.ofId id).text c.layout
  | .all size => return (SearchRequest.everything size).text c.layout
  | .fields path start => do
    let text ← read (.ofPath path) text
    match Value.ofText? maxOpen text with
    | none => .fail .badMapping
    | some mapping =>
      let paths := match start with
        | some start => FieldPath.ofMappingAt mapping start
        | none => FieldPath.ofMapping mapping
      .report (.foundPaths paths.length)
      return "\n".intercalate (paths.map fieldLine)

end Config

end SearchQuery
