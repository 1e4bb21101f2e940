import VersionOrder.Document.Json
import VersionOrder.Settings.Basic
import VersionOrder.Text.Lines
import VersionOrder.Text.Utf8

/-!
# Where settings come from

Settings are read from a file, whose suffix names the kind of document, and then overridden by the
environment. The bytes of the file are decoded before its suffix is looked at. The readers of YAML
and TOML lie outside of the library and are handed to it.

## Main definitions

- `FilePath`: a path, its name and its suffix
- `FileState`: what is found at a path
- `Readers`: the readers from outside
- `Settings.load`: the settings in a file, under an environment
-/

namespace VersionOrder

/-- A path to a file, with neither empty parts nor parts that stay in place. -/
structure FilePath where
  /-- The slashes that the path starts with: none, one or two. -/
  root : String
  /-- The parts of the path. -/
  parts : List String
  deriving DecidableEq, Repr

namespace FilePath

/-- The path that a text writes. Exactly two slashes at the start are kept apart from one. -/
def ofString (s : String) : FilePath :=
  let slashes := (s.toList.takeWhile (· = '/')).length
  let root := if slashes = 0 then "" else if slashes = 2 then "//" else "/"
  let parts := (Text.splitAt '/' s.toList).filter fun part => part ≠ [] && part ≠ ['.']
  ⟨root, parts.map String.ofList⟩

/-- A path in writing; one without root and parts is a dot. -/
def toString (path : FilePath) : String :=
  if path.root.isEmpty && path.parts.isEmpty then "."
  else path.root ++ "/".intercalate path.parts

/-- The last part of a path. -/
def name (path : FilePath) : String :=
  path.parts.getLast?.getD ""

/-- The last dot of a name and what follows it, if the dot is neither the first nor the last
character; otherwise nothing. -/
def suffix (path : FilePath) : Text :=
  let reversed := path.name.toList.reverse
  let tail := (reversed.takeWhile (· ≠ '.')).reverse
  let stem := (reversed.dropWhile (· ≠ '.')).drop 1
  if tail.isEmpty || stem.isEmpty then [] else '.' :: tail

end FilePath

/-- What is found at a path. -/
inductive FileState where
  | missing
  /-- The system does not tell whether there is a file: a directory on the way may not be searched,
  or no file can have the name. -/
  | undetermined (fault : SystemFault)
  /-- There is a file, which cannot be read. -/
  | unreadable
  | content (bytes : List UInt8)
  deriving DecidableEq, Repr

/-- What the reading of documents relies on. -/
structure Readers where
  /-- The value of a YAML document. -/
  yaml : Text → Except ReadFault Value
  /-- The value of a TOML document. -/
  toml : Text → Except ReadFault Value
  /-- How many lists and mappings may be opened inside each other in a JSON document. -/
  jsonRoom : Nat
  /-- How many levels may be nested inside a value that is shown. -/
  shownRoom : Nat

namespace Settings

/-- The kinds of document that settings are written in. -/
inductive DocumentKind where
  | yaml
  | toml
  | json
  deriving DecidableEq, Repr

/-- The kind of document that a suffix in lower case names. -/
def DocumentKind.ofSuffix? (suffix : Text) : Option DocumentKind :=
  if suffix = ".yaml".toList || suffix = ".yml".toList then some .yaml
  else if suffix = ".toml".toList then some .toml
  else if suffix = ".json".toList then some .json
  else none

/-- The value of a document. A YAML document that counts as nothing is an empty mapping. -/
def readDocument (readers : Readers) (kind : DocumentKind) (s : Text) : Except ReadFault Value :=
  match kind with
  | .yaml => do
    let value ← readers.yaml s
    return if value.isFalsy then .mapping [] else value
  | .toml => readers.toml s
  | .json => Json.read readers.jsonRoom s

/-- The mapping in the file at a path. -/
def readFile (readers : Readers) (path : FilePath) (bytes : List UInt8) : Except Fault Value := do
  let text ← match Utf8.decode bytes with
    | .ok text => .ok text
    | .error fault => .error (.refusal (.undecodable fault))
  let suffix := Text.lower path.suffix
  match DocumentKind.ofSuffix? suffix with
  | none =>
    let shown := if suffix.isEmpty then path.name else String.ofList suffix
    .error (.settings (.unknownFormat shown))
  | some kind =>
    match readDocument readers kind (Text.unifyLineEnds text) with
    | .error .malformed => .error (.settings (.malformed path.toString))
    | .error fault => .error (.refusal (.unformed fault))
    | .ok (.mapping entries) => .ok (.mapping entries)
    | .ok _ => .error (.settings (.rootNotMapping path.toString))

/-- The settings in the file at a path, or the defaults if there is no path, under an
environment. -/
def load (readers : Readers) (files : FilePath → FileState) (path? : Option FilePath)
    (environment : List (String × String)) : Except Fault Settings := do
  let settings ← match path? with
    | none => .ok {}
    | some path =>
      match files path with
      | .missing => .error (.settings (.fileNotFound path.toString))
      | .undetermined fault => .error (.refusal (.undetermined path.toString fault))
      | .unreadable => .error (.settings (.fileUnreadable path.toString))
      | .content bytes => do ofValue readers.shownRoom (← readFile readers path bytes)
  settings.withOverrides readers.shownRoom environment

end Settings

end VersionOrder
