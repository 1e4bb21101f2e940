import VersionOrder.Document.Value
import VersionOrder.Scheme

/-!
# Scheme definitions

A scheme may be described by a mapping of words. Reading a definition checks every field, in a
fixed order, and names the first that is wrong; the words themselves are kept as they are written.

## Main definitions

- `Family`: the comparator families that a definition may name
- `SchemeDefinition`: a checked description of a scheme
- `SchemeDefinition.ofValue`, `SchemeDefinition.toValue`: reading and writing definitions
- `SchemeDefinition.toScheme`: the scheme that a definition describes
- `knownEntries`: a mapping with only known keys, hyphens and underscores alike
-/

namespace VersionOrder

/-- A comparator family. -/
inductive Family where
  | maven
  | semver
  | calendar
  deriving DecidableEq, Repr

namespace Family

/-- The families, in order. -/
def all : List Family :=
  [.maven, .semver, .calendar]

/-- The word for a family. -/
def code : Family → String
  | .maven => "maven-like"
  | .semver => "semver-like"
  | .calendar => "calver-like"

/-- The family that a word names, spelled exactly. -/
def ofWord? (word : String) : Option Family :=
  all.find? fun family => family.code = word

/-- The comparator of a family. -/
def comparator : Family → Comparator
  | .maven => .maven
  | .semver => .semver
  | .calendar => Comparator.calver

end Family

/-- The spelling of a key with underscores only. -/
def keySpelling (key : String) : String :=
  String.ofList (Text.replaceChar '-' '_' key.toList)

/-- Words in code-point order. -/
def sortedWords (words : List String) : List String :=
  words.mergeSort fun a b => Text.compare a.toList b.toList ≤ 0

/-- The entries of a mapping under their spelling with underscores; a key that is spelled twice
takes its last value. Every key has to be an allowed one. -/
def knownEntries (place : String) (allowed : List String) (value : Value) :
    Except Fault (List (String × Value)) :=
  match value with
  | .mapping entries => do
    if entries.any fun (key, _) => !key.isWritable then .error (.refusal (.unwritable .tooLong))
    let known := Value.ofEntries (entries.map fun (key, value) => (keySpelling key.word, value))
    let unknown := (known.map Prod.fst).filter fun key => !allowed.contains key
    if unknown.isEmpty then .ok known
    else .error (.settings (.unknownKeys place (sortedWords unknown) (sortedWords allowed)))
  | other => .error (.settings (.notMapping place other.kind))

/-- A description of a scheme. -/
structure SchemeDefinition where
  /-- The code of the scheme. -/
  code : String
  /-- The comparator family. -/
  family : Family := .maven
  /-- Whether the version part comes first. -/
  versionFirst : Bool := true
  /-- What stands between version and build part; empty for none. -/
  delimiter : String := ""
  /-- The word for the build comparison policy. -/
  comparisonWord : String := BuildComparison.ignore.code
  /-- The word for the build format policy. -/
  formatWord : String := BuildFormat.leaveOut.code
  /-- What stands before a build part that is folded into the qualifier section. -/
  buildLabel : String := "build"
  /-- What starts the qualifier section. -/
  qualifierDelimiter : String := "-"
  /-- What separates the tokens of the qualifier section. -/
  tokenDelimiter : String := "."
  deriving DecidableEq, Repr

namespace SchemeDefinition

/-- The keys of a definition, in order. -/
def keys : List String :=
  ["code", "comparator", "version_before_build", "build_delimiter", "build_comparison",
    "build_format", "mapped_build_prefix", "qualifier_delimiter", "qualifier_token_delimiter"]

/-- The text of a field, or its default; the field has to be a text. -/
def textField (entries : List (String × Value)) (code key fallback : String) :
    Except Fault String :=
  match entries.lookup key with
  | none => .ok fallback
  | some (.text s) => .ok s
  | some other => .error (.settings (.fieldNotText key code other.kind))

/-- The code of a definition, which has to be there and is no blank text. -/
def codeField (entries : List (String × Value)) : Except Fault String :=
  match entries.lookup "code" with
  | none => .error (.settings .missingCode)
  | some (.text code) =>
    if Text.allBlank code.toList then .error (.settings .blankSchemeCode) else .ok code
  | some _ => .error (.settings .blankSchemeCode)

/-- The family that a word in a definition names. -/
def readFamily (word code : String) : Except Fault Family :=
  match Family.ofWord? word with
  | some family => .ok family
  | none => .error (.settings (.unknownComparator word code (Family.all.map Family.code)))

/-- Whether a definition has the version part first. -/
def orderField (entries : List (String × Value)) (code : String) : Except Fault Bool :=
  match entries.lookup "version_before_build" with
  | none => .ok true
  | some (.boolean b) => .ok b
  | some _ => .error (.settings (.orderNotBoolean code))

/-- A definition as given, unless one of its words names no policy. -/
def checkPolicies (definition : SchemeDefinition) : Except Fault SchemeDefinition :=
  match BuildComparison.ofWord definition.comparisonWord,
    BuildFormat.ofWord definition.formatWord with
  | .error refusal, _ => .error (.settings (.unknownPolicy refusal definition.code))
  | .ok _, .error refusal => .error (.settings (.unknownPolicy refusal definition.code))
  | .ok _, .ok _ => .ok definition

/-- The definition that a mapping describes. The code is looked at first, then all texts, the
comparator, the order of the parts, and the policies. -/
def ofValue (value : Value) : Except Fault SchemeDefinition := do
  let entries ← knownEntries "scheme definition" keys value
  let code ← codeField entries
  let comparator ← textField entries code "comparator" Family.maven.code
  let delimiter ← textField entries code "build_delimiter" ""
  let comparisonWord ← textField entries code "build_comparison" BuildComparison.ignore.code
  let formatWord ← textField entries code "build_format" BuildFormat.leaveOut.code
  let buildLabel ← textField entries code "mapped_build_prefix" "build"
  let qualifierDelimiter ← textField entries code "qualifier_delimiter" "-"
  let tokenDelimiter ← textField entries code "qualifier_token_delimiter" "."
  let family ← readFamily comparator code
  let versionFirst ← orderField entries code
  checkPolicies
    { code, family, versionFirst, delimiter, comparisonWord, formatWord, buildLabel,
      qualifierDelimiter, tokenDelimiter }

/-- The entries of the mapping that describes a definition. -/
def toEntries (definition : SchemeDefinition) : List (String × Value) :=
  [("code", .text definition.code),
    ("comparator", .text definition.family.code),
    ("version_before_build", .boolean definition.versionFirst),
    ("build_delimiter", .text definition.delimiter),
    ("build_comparison", .text definition.comparisonWord),
    ("build_format", .text definition.formatWord),
    ("mapped_build_prefix", .text definition.buildLabel),
    ("qualifier_delimiter", .text definition.qualifierDelimiter),
    ("qualifier_token_delimiter", .text definition.tokenDelimiter)]

/-- The mapping that describes a definition. -/
def toValue (definition : SchemeDefinition) : Value :=
  .object definition.toEntries

/-- A refused word as a fault. -/
def liftRefusal {α : Type} : Except Refusal α → Except Fault α
  | .ok a => .ok a
  | .error refusal => .error (.refusal refusal)

/-- The scheme that a definition describes. Its layout and style are known by codes of their own,
made from the code of the scheme. -/
def toScheme (definition : SchemeDefinition) : Except Fault Scheme := do
  let comparison ← liftRefusal (BuildComparison.ofWord definition.comparisonWord)
  let layout ← Layout.validate
    { code := definition.code ++ "-structure"
      versionFirst := definition.versionFirst
      delimiter := definition.delimiter.toList
      comparison }
  let buildFormat ← liftRefusal (BuildFormat.ofWord definition.formatWord)
  let style ← Style.validate
    { code := definition.code ++ "-format"
      buildFormat
      buildLabel := definition.buildLabel.toList
      qualifierDelimiter := definition.qualifierDelimiter.toList
      tokenDelimiter := definition.tokenDelimiter.toList }
  Scheme.make definition.code (some definition.family.comparator) layout style none

end SchemeDefinition

end VersionOrder
