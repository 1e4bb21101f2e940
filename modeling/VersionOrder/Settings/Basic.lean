import VersionOrder.Registry
import VersionOrder.Settings.Definition

/-!
# Settings

Settings name a default scheme and a log level, and define schemes of their own. They are read from
a mapping, which may be nested under a table of its own, and may be overridden by the environment.

## Main definitions

- `LogLevel`: the levels of the log
- `Settings`: checked settings
- `Settings.ofValue`, `Settings.toValue`: reading and writing settings
- `Settings.withOverrides`: settings under an environment
- `Settings.buildRegistry`: the built-in schemes and the defined ones
- `Settings.defaultScheme`: the scheme that the settings name
-/

namespace VersionOrder

/-- A level of the log. -/
inductive LogLevel where
  | debug
  | info
  | warning
  | error
  | critical
  deriving DecidableEq, Repr

namespace LogLevel

/-- The levels, lowest first. -/
def all : List LogLevel :=
  [.debug, .info, .warning, .error, .critical]

/-- The word for a level. -/
def code : LogLevel → String
  | .debug => "DEBUG"
  | .info => "INFO"
  | .warning => "WARNING"
  | .error => "ERROR"
  | .critical => "CRITICAL"

/-- The severity of a level. -/
def severity : LogLevel → Nat
  | .debug => 10
  | .info => 20
  | .warning => 30
  | .error => 40
  | .critical => 50

/-- The level that a word names, in any case. -/
def ofWord? (word : String) : Option LogLevel :=
  all.find? fun level => Text.upper word.toList = level.code.toList

end LogLevel

/-- Settings. -/
structure Settings where
  /-- The code of the scheme that is used where none is given. -/
  defaultCode : String := "maven-default"
  /-- The word for the log level. -/
  levelWord : String := "WARNING"
  /-- The schemes that are defined. -/
  definitions : List SchemeDefinition := []
  deriving DecidableEq, Repr

namespace Settings

/-- The table that settings may be nested under. -/
def tableName : String :=
  "verspan"

/-- The keys of settings. -/
def keys : List String :=
  ["default_scheme", "log_level", "schemes"]

/-- The code of the default scheme, which has to be a text that is not blank. -/
def readDefaultCode : Value → Except Fault String
  | .text code =>
    if Text.allBlank code.toList then .error (.settings .blankDefaultScheme) else .ok code
  | _ => .error (.settings .blankDefaultScheme)

/-- The word for the log level. A value that names none is shown, as far as it can be written; `room`
is how many levels may be nested inside it. -/
def readLevelWord (room : Nat) (value : Value) : Except Fault String :=
  let unknownLevel : Except Fault String :=
    match value.write room with
    | .ok shown => .error (.settings (.unknownLogLevel shown (LogLevel.all.map LogLevel.code)))
    | .error fault => .error (.refusal (.unwritable fault))
  match value with
  | .text word => if (LogLevel.ofWord? word).isSome then .ok word else unknownLevel
  | _ => unknownLevel

/-- The settings with the given values, which are checked: the default scheme first, then the log
level. -/
def check (room : Nat) (defaultCode levelWord : Value) (definitions : List SchemeDefinition) :
    Except Fault Settings := do
  let code ← readDefaultCode defaultCode
  let word ← readLevelWord room levelWord
  return { defaultCode := code, levelWord := word, definitions }

/-- The value that holds the settings: the table named for them, where a mapping has one, or the
value itself. -/
def unwrap (value : Value) : Except Fault Value :=
  match value with
  | .mapping entries =>
    match entries.lookup (.text tableName) with
    | some (.mapping inner) => .ok (.mapping inner)
    | _ => .ok value
  | .text s =>
    if Text.occursIn tableName.toList s.toList then .error (.refusal .namedInText) else .ok value
  | .list items =>
    let named := items.any fun item =>
      match item with
      | .text s => s = tableName
      | _ => false
    if named then .error (.refusal .namedInList) else .ok value
  | other => .error (.refusal (.notContainer other.kind))

/-- The scheme definitions in the entries of the settings. -/
def readDefinitions (entries : List (String × Value)) : Except Fault (List SchemeDefinition) :=
  let value := (entries.lookup "schemes").getD .null
  if value.isFalsy then .ok []
  else match value with
    | .list items => items.mapM SchemeDefinition.ofValue
    | _ => .error (.settings .schemesNotList)

/-- The settings that a value holds; a value that counts as nothing holds the defaults. A log level
that is none is shown if no more than `room` levels are nested inside it. -/
def ofValue (room : Nat) (value : Value) : Except Fault Settings := do
  if value.isFalsy then return {}
  else
    let entries ← knownEntries "configuration" keys (← unwrap value)
    let definitions ← readDefinitions entries
    let default : Settings := {}
    check room ((entries.lookup "default_scheme").getD (.text default.defaultCode))
      ((entries.lookup "log_level").getD (.text default.levelWord)) definitions

/-- The mapping that holds the settings. -/
def toValue (settings : Settings) : Value :=
  .object
    [("default_scheme", .text settings.defaultCode),
      ("log_level", .text settings.levelWord),
      ("schemes", .list (settings.definitions.map SchemeDefinition.toValue))]

/-- The environment variable that overrides the default scheme. -/
def defaultSchemeVariable : String :=
  "VERSPAN_DEFAULT_SCHEME"

/-- The environment variable that overrides the log level. -/
def logLevelVariable : String :=
  "VERSPAN_LOG_LEVEL"

/-- The value of an environment variable without blanks around it; empty if it is not set. -/
def override (environment : List (String × String)) (name : String) : Text :=
  Text.trim ((environment.lookup name).getD "").toList

/-- The settings under an environment: a variable that is set and not blank takes the place of what
the settings say, and the log level is taken in upper case. -/
def withOverrides (room : Nat) (settings : Settings) (environment : List (String × String)) :
    Except Fault Settings :=
  let code := override environment defaultSchemeVariable
  let level := override environment logLevelVariable
  if code.isEmpty && level.isEmpty then .ok settings
  else
    check room
      (.text (if code.isEmpty then settings.defaultCode else String.ofList code))
      (.text (if level.isEmpty then settings.levelWord else String.ofList (Text.upper level)))
      settings.definitions

/-- The log level that the settings name. -/
def level? (settings : Settings) : Option LogLevel :=
  LogLevel.ofWord? settings.levelWord

/-- A registry with one more scheme, by its definition. -/
def register (registry : Registry) (definition : SchemeDefinition) : Except Fault Registry :=
  match definition.toScheme.bind registry.add with
  | .error (.scheme cause) => .error (.settings (.unregistrable definition.code cause))
  | result => result

/-- A registry with some more schemes, up to the first that cannot be registered, and why that one
cannot. -/
def registerAll (registry : Registry) : List SchemeDefinition → Registry × Option Fault
  | [] => (registry, none)
  | definition :: rest =>
    match register registry definition with
    | .ok grown => registerAll grown rest
    | .error fault => (registry, some fault)

/-- The built-in schemes and the defined ones, in order. -/
def buildRegistry (settings : Settings) : Except Fault Registry :=
  match registerAll Registry.builtin settings.definitions with
  | (registry, none) => .ok registry
  | (_, some fault) => .error fault

/-- The scheme that the settings name, in a registry. -/
def defaultSchemeIn (settings : Settings) (registry : Registry) : Except Fault Scheme :=
  match registry.find? settings.defaultCode with
  | some scheme => .ok scheme
  | none => .error (.settings (.unknownDefaultScheme settings.defaultCode registry.codes))

/-- The scheme that the settings name, in the registry that they build. -/
def defaultScheme (settings : Settings) : Except Fault Scheme := do
  settings.defaultSchemeIn (← settings.buildRegistry)

end Settings

end VersionOrder
