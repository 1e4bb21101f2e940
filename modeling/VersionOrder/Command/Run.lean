import VersionOrder.Command.Basic
import VersionOrder.Command.Report
import VersionOrder.Qualifier
import VersionOrder.Interval.Versions
import VersionOrder.Settings.Source
import VersionOrder.Sorting

/-!
# Running commands

A command works under settings, with the schemes that they register, and logs what comparisons
remark. A command line is read in two steps: its general part before the settings are loaded, and
the rest after the schemes are registered, so that faulty settings are told before misuse of the
command.

## Main definitions

- `Host`: what the running of commands relies on
- `Session`: what commands work with
- `Command.answer`: what a command prints, and its exit code
- `Outcome`, `run`: what a command line leads to
-/

namespace VersionOrder

/-- A computation that may fail and that logs. -/
abbrev Logged (α : Type) : Type :=
  ExceptT Fault (StateM (List LogRecord)) α

namespace Logged

/-- A computation that logs nothing. -/
def ofExcept {α : Type} (result : Except Fault α) : Logged α :=
  ExceptT.mk (pure result)

/-- A computation that only logs some remarks. -/
def remark (remarks : List Remark) : Logged Unit :=
  modify fun log => log ++ remarks.map LogRecord.ofRemark

end Logged

/-- The precedence of two versions, with what the comparison remarks. -/
def Scheme.compareLogged (scheme : Scheme) (left right : Version) : Logged Int := do
  Logged.remark (scheme.precedence.remarks left right)
  Logged.ofExcept (scheme.compare left right)

namespace RangeOptions

/-- The boundary on the side of a bound. -/
def boundary (bound? : Option Text) (isOpen : Bool) : Boundary :=
  match bound? with
  | none => .unbounded
  | some _ => if isOpen then .exclusive else .inclusive

/-- The interval of versions between the bounds. -/
def interval (range : RangeOptions) (scheme : Scheme) : Except Fault VersionInterval :=
  VersionInterval.make scheme
    (boundary range.lower? range.lowerOpen) (range.lower?.map .text)
    (boundary range.upper? range.upperOpen) (range.upper?.map .text)

/-- What is remarked when the interval is formed. -/
def remarks (range : RangeOptions) (scheme : Scheme) : List Remark :=
  match range.lower?, range.upper? with
  | some lower, some upper =>
    scheme.precedence.remarks (scheme.parse lower) (scheme.parse upper)
  | _, _ => []

end RangeOptions

namespace VersionInterval

/-- What is remarked when a version is held against an endpoint. -/
def endpointRemarks (scheme : Scheme) (v : Version) (endpoint : Endpoint Version) : List Remark :=
  match endpoint with
  | .unbounded => []
  | .bounded _ bound => scheme.precedence.remarks v bound

/-- What is remarked when a version is held against an interval: the right endpoint counts only if
the left one admits the version. -/
def remarks (i : VersionInterval) (v : Version) : List Remark :=
  endpointRemarks i.scheme v i.interval.left ++
    match Interval.admitsFromLeft i.scheme.domain i.interval.left v with
    | .ok true => endpointRemarks i.scheme v i.interval.right
    | _ => []

end VersionInterval

/-- What commands work with. -/
structure Session where
  /-- The settings. -/
  settings : Settings
  /-- The schemes that they register. -/
  registry : Registry

namespace Session

/-- The scheme with the given code; the default scheme if no code is given or an empty one. -/
def scheme (session : Session) (code? : Option String) : Except Fault Scheme :=
  match code? with
  | none => session.settings.defaultSchemeIn session.registry
  | some code =>
    if code.isEmpty then session.settings.defaultSchemeIn session.registry
    else session.registry.get code

end Session

/-- What a command answers. -/
structure Answer where
  /-- What is printed. -/
  output : List Output
  /-- The exit code. -/
  exitCode : Nat := 0
  deriving DecidableEq, Repr

namespace Command

/-- The sign between two versions, by the result of their comparison. -/
def sign (result : Int) : Text :=
  if result < 0 then ['<'] else if 0 < result then ['>'] else ['=']

/-- A text, or a dash in place of an empty one. -/
def orDash (s : Text) : Text :=
  if s.isEmpty then ['-'] else s

/-- A cell that is drawn as a text is, or a dash in place of an empty one. -/
def cell (console : Console) (s : Text) : String :=
  String.ofList (orDash (console.escape s))

/-- How a scheme reads a version, marked up. -/
def inspection (console : Console) (scheme : Scheme) (text : Text) : Except Fault Table := do
  let version := scheme.parse text
  let parts := scheme.split version.text
  let qualifier := Qualifier.extract version scheme
  let normalized ← scheme.normalize text
  let tokens := version.tokens.map fun token => quoted (String.ofList token.text)
  return {
    title? := some (String.ofList (console.escape (text ++ s!" ({scheme.code})".toList)))
    columns := ["Property", "Value"]
    rows := [
      ["Tokens", cell console (commaSeparated tokens).toList],
      ["Version part", cell console parts.version],
      ["Build part", cell console parts.build],
      ["Qualifier kind", qualifier.kind.code],
      ["Qualifier label", String.ofList (console.escape (orDash (qualifier.label?.getD [])))],
      ["Normalized", String.ofList (console.escape normalized)]] }

/-- The row of a scheme, with a star for the default scheme. -/
def schemeRow (defaultCode : String) (scheme : Scheme) : List String :=
  let isDefault := Text.lower scheme.code.toList = Scheme.key defaultCode
  [scheme.code, scheme.origin.code, scheme.comparator.name, scheme.layout.code,
    scheme.style.buildFormat.code, if isDefault then "*" else ""]

/-- The schemes of a session. Their codes are not escaped, so that they may be taken for marked-up
texts. -/
def schemeTable (session : Session) : Table where
  columns := ["Code", "Origin", "Comparator", "Structure", "Format", "Default"]
  rows := session.registry.schemes.map (schemeRow session.settings.defaultCode)

/-- Versions in the order of a scheme, ties in their given order. -/
def sorted (scheme : Scheme) (descending : Bool) (texts : List Text) : Logged (List Text) :=
  let before (left right : Text) : Logged Bool := do
    return (← scheme.compareLogged (scheme.parse left) (scheme.parse right)) < 0
  if descending then Sorting.sortDescending before texts else Sorting.sort before texts

/-- The answer that a table is, once it is drawn. -/
def printTable (console : Console) (table : Table) : Logged Answer := do
  let lines ← Logged.ofExcept (console.drawn table)
  return { output := [.table table lines] }

/-- What a command answers. -/
def answer (console : Console) (session : Session) : Command → Logged Answer
  | .compare left right scheme? => do
    let scheme ← Logged.ofExcept (session.scheme scheme?)
    let result ← scheme.compareLogged (scheme.parse left) (scheme.parse right)
    return { output := [.ofText (left ++ ' ' :: sign result ++ ' ' :: right)] }
  | .sort versions scheme? descending => do
    let scheme ← Logged.ofExcept (session.scheme scheme?)
    let versions ← sorted scheme descending versions
    return { output := versions.map .ofText }
  | .normalize version scheme? => do
    let scheme ← Logged.ofExcept (session.scheme scheme?)
    let normalized ← Logged.ofExcept (scheme.normalize version)
    return { output := [.ofText normalized] }
  | .contains version range scheme? strict => do
    let scheme ← Logged.ofExcept (session.scheme scheme?)
    Logged.remark (range.remarks scheme)
    let interval ← Logged.ofExcept (range.interval scheme)
    let parsed := scheme.parse version
    Logged.remark (interval.remarks parsed)
    let inside ← Logged.ofExcept (interval.contains parsed)
    let verdict := if inside then "yes" else "no"
    return {
      output := [.ofText (version ++ s!" in {interval.render}: {verdict}".toList)]
      exitCode := if strict && !inside then 1 else 0 }
  | .inspect version scheme? => do
    let scheme ← Logged.ofExcept (session.scheme scheme?)
    let table ← Logged.ofExcept (inspection console scheme version)
    printTable console table
  | .schemes => printTable console (schemeTable session)

end Command

/-- What a command line leads to. -/
inductive Outcome where
  /-- The rules of the command line are broken. -/
  | misused
  /-- Help is asked for. -/
  | help
  /-- A command has been run, or could not be. -/
  | finished (report : Report)
  deriving DecidableEq, Repr

/-- The report of a command that is run behind some log records. -/
def Command.report (command : Command) (console : Console) (session : Session)
    (threshold : LogLevel) (log : List LogRecord) : Report :=
  match (command.answer console session).run.run log with
  | (.ok answer, log) =>
    { output := answer.output
      log := Report.shown threshold log
      exitCode := answer.exitCode }
  | (.error fault, log) => .ofFault (some threshold) log fault

/-- What the running of commands relies on. -/
structure Host where
  /-- How documents are read. -/
  readers : Readers
  /-- How command lines are read. -/
  parser : Parser
  /-- How tables are drawn. -/
  console : Console

/-- What a request leads to. -/
def Request.run (request : Request) (host : Host) (files : FilePath → FileState)
    (environment : List (String × String)) : Outcome :=
  match Settings.load host.readers files (request.settingsPath?.map FilePath.ofString)
    environment with
  | .error fault => .finished (.ofFault none [] fault)
  | .ok settings =>
    let threshold := if request.verbose then .debug else settings.level?.getD .warning
    let (registry, fault?) := Settings.registerAll Registry.builtin settings.definitions
    let log := registry.schemes.map LogRecord.ofRegistration
    match fault? with
    | some fault => .finished (.ofFault (some threshold) log fault)
    | none =>
      match request.verb.read host.parser request.words with
      | .misused => .misused
      | .help => .help
      | .read command =>
        .finished (command.report host.console ⟨settings, registry⟩ threshold log)

/-- What a command line leads to. -/
def run (host : Host) (files : FilePath → FileState) (environment : List (String × String))
    (words : List Text) : Outcome :=
  match Request.read host.parser words with
  | .misused => .misused
  | .help => .help
  | .read request => request.run host files environment

end VersionOrder
