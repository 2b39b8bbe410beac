import SearchQuery.CommandLine.Config
import SearchQuery.Operator
import SearchQuery.Word

/-!
# Reading arguments

A command stands among options. Options of every command may stand before or behind it, those
behind it count first, then those before it, then the environment, then the defaults. Arguments
are read from the left, and asking for help ends the reading at once; but a value that stands
right before the command is looked at only when everything behind it has been read.
-/

namespace SearchQuery

/-- Why there is no configuration. -/
inductive UsageError where
  | help
  | misuse
  deriving DecidableEq, Repr

/-! ## Options -/

/-- The options. -/
inductive OptionKey where
  | compact
  | maxDepth
  | onUnsupported
  | logLevel
  | input
  | size
  | mapping
  | start
  deriving DecidableEq, Repr

/-- An option with its value. -/
inductive Setting where
  | compact (on : Bool)
  | maxDepth (limit : UInt64)
  | onUnsupported (policy : UnsupportedPolicy)
  | logLevel (name : String)
  | input (path : String)
  | size (n : Int64)
  | mapping (path : String)
  | start (path : String)
  deriving DecidableEq, Repr

/-- The option that is set. -/
def Setting.key : Setting → OptionKey
  | compact _ => .compact
  | maxDepth _ => .maxDepth
  | onUnsupported _ => .onUnsupported
  | logLevel _ => .logLevel
  | input _ => .input
  | size _ => .size
  | mapping _ => .mapping
  | start _ => .start

/-- A number of decimal digits only, at least one. -/
def readDigits? (digits : List Char) : Option Nat :=
  if digits.isEmpty || digits.any (!·.isDigit) then none else some (Nat.ofDigitChars 10 digits 0)

/-- A number with or without a plus, in 64 bits. -/
def readCount? (text : String) : Option UInt64 :=
  let size := match text.toList with
    | '+' :: digits => readDigits? digits
    | digits => readDigits? digits
  size.bind fun n => unsigned? n

/-- A number with or without a sign, in 64 bits. -/
def readInteger? (text : String) : Option Int64 :=
  let value : Option Int := match text.toList with
    | '+' :: digits => (readDigits? digits).map fun n => n
    | '-' :: digits => (readDigits? digits).map fun n => -n
    | digits => (readDigits? digits).map fun n => n
  value.bind signed?

/-- A path is never empty. -/
def readPath? (text : String) : Option String := if text = "" then none else some text

namespace OptionKey

/-- The long name. -/
def name : OptionKey → String
  | compact => "compact"
  | maxDepth => "max-depth"
  | onUnsupported => "on-unsupported"
  | logLevel => "log-level"
  | input => "input"
  | size => "size"
  | mapping => "mapping"
  | start => "start"

/-- The letter, if it has one. -/
def letter? : OptionKey → Option Char
  | input => some 'i'
  | mapping => some 'm'
  | _ => none

/-- The environment variable, if there is one. -/
def envVar? : OptionKey → Option String
  | compact => some "ESQUERY_COMPACT"
  | maxDepth => some "ESQUERY_MAX_DEPTH"
  | onUnsupported => some "ESQUERY_ON_UNSUPPORTED"
  | logLevel => some "ESQUERY_LOG_LEVEL"
  | input => some "ESQUERY_INPUT"
  | _ => none

/-- The option with this value. -/
def read? (key : OptionKey) (value : String) : Option Setting :=
  match key with
  | compact =>
    if value = "true" then some (.compact true)
    else if value = "false" then some (.compact false)
    else none
  | maxDepth => (readCount? value).map .maxDepth
  | onUnsupported => (UnsupportedPolicy.ofText? value).map .onUnsupported
  | logLevel => some (.logLevel value)
  | input => (readPath? value).map .input
  | size => (readInteger? value).map .size
  | mapping => (readPath? value).map .mapping
  | start => some (.start value)

/-- The options of every command. -/
def global : List OptionKey := [compact, maxDepth, onUnsupported, logLevel]

end OptionKey

/-! ## Commands -/

/-- The commands by name. -/
inductive Verb where
  | compile
  | ids
  | byId
  | all
  | fields
  deriving DecidableEq, Repr

namespace Verb

/-- Every command. -/
def every : List Verb := [compile, ids, byId, all, fields]

/-- The command's name. -/
def name : Verb → String
  | compile => "compile"
  | ids => "ids"
  | byId => "by-id"
  | all => "all"
  | fields => "fields"

/-- The command with this name. -/
def ofName? (name : String) : Option Verb := every.find? (·.name = name)

/-- The options it understands. -/
def keys : Verb → List OptionKey
  | compile => .input :: OptionKey.global
  | all => .size :: OptionKey.global
  | fields => .mapping :: .start :: OptionKey.global
  | ids | byId => OptionKey.global

/-- It takes another argument beside so many. -/
def takes (count : Nat) : Verb → Bool
  | ids => true
  | byId => count = 0
  | _ => false

end Verb

/-! ## One level of arguments -/

/-- An option whose value stands in an argument of its own. -/
inductive Pending where
  | nothing
  | awaiting (key : OptionKey)
  | held (key : OptionKey) (value : String)
  deriving DecidableEq, Repr

/-- What has been read on one side of the command. -/
structure Progress where
  settings : List Setting := []
  pending : Pending := .nothing
  /-- Arguments that are no options. -/
  free : List String := []
  /-- No argument is an option any more. -/
  literal : Bool := false

namespace Progress

/-- Adds a setting; no option may be set twice. -/
def add (p : Progress) (s : Option Setting) : Except UsageError Progress :=
  match s with
  | none => .error .misuse
  | some s =>
    if (p.settings.map Setting.key).contains s.key then .error .misuse
    else .ok { p with settings := p.settings ++ [s] }

/-- Looks at the value of the last option. -/
def settle (p : Progress) : Except UsageError Progress :=
  match p.pending with
  | .nothing => .ok p
  | .awaiting _ => .error .misuse
  | .held key value => { p with pending := .nothing }.add (key.read? value)

/-- Reads an option by its long name, with the value behind an equals sign, if any. -/
def long (keys : List OptionKey) (p : Progress) (name : String) (value : Option String) :
    Except UsageError Progress := do
  if name = "help" then
    let _ ← p.settle
    .error (if value.isSome then .misuse else .help)
  else
    match keys.find? (·.name = name), value with
    | none, _ => .error .misuse
    | some .compact, none => (← p.settle).add (some (.compact true))
    | some .compact, some _ => .error .misuse
    | some key, none => return { ← p.settle with pending := .awaiting key }
    | some key, some v => (← p.settle).add (key.read? v)

/-- Reads an option by its letter, with what follows the letter. -/
def short (keys : List OptionKey) (p : Progress) (letter : Char) (more : List Char) :
    Except UsageError Progress := do
  if letter = 'h' then
    let _ ← p.settle
    .error .help
  else
    match keys.find? (·.letter? = some letter), more with
    | none, _ => .error .misuse
    | some key, [] => return { ← p.settle with pending := .awaiting key }
    | some key, '=' :: v => (← p.settle).add (key.read? (String.ofList v))
    | some key, v => (← p.settle).add (key.read? (String.ofList v))

/-- An argument by its form. -/
inductive Argument where
  | word
  | literals
  | long (name : String) (value : Option String)
  | short (letter : Char) (more : List Char)

/-- The form of an argument. A dash by itself is a word. -/
def Argument.ofText (text : String) : Argument :=
  match text.toList with
  | ['-', '-'] => .literals
  | '-' :: '-' :: rest =>
    let name := String.ofList (rest.takeWhile (· ≠ '='))
    match rest.dropWhile (· ≠ '=') with
    | _ :: value => .long name (some (String.ofList value))
    | [] => .long name none
  | '-' :: letter :: more => .short letter more
  | _ => .word

/-- Reads one argument; `none` if it is a word and no value. -/
def step (keys : List OptionKey) (p : Progress) (text : String) :
    Except UsageError (Option Progress) :=
  if p.literal then .ok none
  else match Argument.ofText text, p.pending with
    | .word, .awaiting key => .ok (some { p with pending := .held key text })
    | .word, _ => .ok none
    | _, .awaiting _ => .error .misuse
    | .literals, _ => .ok (some { p with literal := true })
    | .long name value, _ => (p.long keys name value).map some
    | .short letter more, _ => (p.short keys letter more).map some

/-- Adds an argument that is no option. -/
def addFree (p : Progress) (text : String) : Except UsageError Progress := do
  let p ← p.settle
  return { p with free := p.free ++ [text] }

end Progress

/-! ## Environment -/

/-- The environment variables that are set. -/
abbrev Environment := List (String × String)

/-- The settings from the environment for the options that were not given. -/
def Environment.settings (env : Environment) (keys : List OptionKey) (given : List Setting) :
    Except UsageError (List Setting) :=
  let read (key : OptionKey) : Except UsageError (List Setting) :=
    match key.envVar?.bind (List.lookup · env) with
    | none => .ok []
    | some value =>
      if (given.map Setting.key).contains key then .ok []
      else match key.read? value with
        | some s => .ok [s]
        | none => .error .misuse
  (keys.mapM read).map List.flatten

/-! ## Configurations from arguments -/

namespace Config

/-- Reads the arguments behind a command. -/
def readCommand (verb : Verb) : Progress → List String → Except UsageError Progress
  | p, [] => p.settle
  | p, text :: rest =>
    match p.step verb.keys text with
    | .error e => .error e
    | .ok (some p) => readCommand verb p rest
    | .ok none =>
      if verb.takes p.free.length then
        match p.addFree text with
        | .ok p => readCommand verb p rest
        | .error e => .error e
      else .error .misuse

/-- The command of a verb, with the settings and the other arguments it was given. -/
def command? (verb : Verb) (settings : List Setting) (free : List String) : Option Command :=
  match verb, free with
  | .compile, _ =>
    some (.compile (settings.findSome? fun | .input path => some path | _ => none))
  | .ids, [] => none
  | .ids, ids => some (.ids ids)
  | .byId, [id] => some (.byId id)
  | .byId, _ => none
  | .all, _ => some (.all ((settings.findSome? fun | .size n => some n | _ => none).getD 10000))
  | .fields, _ =>
    some (.fields (settings.findSome? fun | .mapping path => some path | _ => none)
      (settings.findSome? fun | .start path => some path | _ => none))

/-- The configuration of a command; of two settings of one option the first counts. -/
def ofSettings (command : Command) (settings : List Setting) : Config where
  command := command
  compact := (settings.findSome? fun | .compact on => some on | _ => none).getD false
  maxDepth := (settings.findSome? fun | .maxDepth limit => some limit | _ => none).getD 32
  onUnsupported := (settings.findSome? fun | .onUnsupported p => some p | _ => none).getD .fail
  logLevel := (settings.findSome? fun | .logLevel name => some name | _ => none).getD "warn"

/-- Finishes the configuration of a command, the options before it being read. -/
def finish (env : Environment) (before : Progress) (verb : Verb) (rest : List String) :
    Except UsageError Config := do
  let behind ← readCommand verb {} rest
  let ownEnv ← env.settings verb.keys behind.settings
  let before ← before.settle
  let globalEnv ← env.settings OptionKey.global before.settings
  let settings := behind.settings ++ before.settings ++ ownEnv ++ globalEnv
  match command? verb settings behind.free with
  | some command => return ofSettings command settings
  | none => .error .misuse

/-- Help may be asked for on one command. -/
def askedHelp (rest : List String) : UsageError :=
  match rest with
  | [] => .help
  | [name] => if name = "help" ∨ (Verb.ofName? name).isSome then .help else .misuse
  | _ => .misuse

/-- Reads the arguments up to the command and then what is behind it. -/
def readTop (env : Environment) : Progress → List String → Except UsageError Config
  | _, [] => .error .misuse
  | p, text :: rest =>
    match p.step OptionKey.global text with
    | .error e => .error e
    | .ok (some p) => readTop env p rest
    | .ok none =>
      if p.literal then .error .misuse
      else if text = "help" then .error (askedHelp rest)
      else match Verb.ofName? text with
        | some verb => finish env p verb rest
        | none => .error .misuse

/-- The configuration that a command line and an environment ask for. -/
def ofArguments (env : Environment) (arguments : List String) : Except UsageError Config :=
  readTop env {} arguments

end Config

end SearchQuery
