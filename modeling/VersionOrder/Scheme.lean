import VersionOrder.Comparator
import VersionOrder.Style

/-!
# Version schemes

A scheme is known by a code and joins a comparator, a layout and a style. Its precedence sets build
parts aside whenever the layout asks for it. Versions are read and written by a codec; unless the
scheme has one of its own, reading trims and writing follows the style.

## Main definitions

- `Codec`: how versions are read and written
- `Scheme`: a scheme, and the six that are built in
- `Scheme.make`: a scheme of the caller's own
- `Scheme.compare`: the precedence of two versions
- `Scheme.parse`, `Scheme.render`, `Scheme.normalize`: reading and writing versions
- `Scheme.findBuiltin?`: a built-in scheme by its code
-/

namespace VersionOrder

/-- Where a scheme comes from. -/
inductive Origin where
  | builtin
  | custom
  deriving DecidableEq, Repr

/-- The word for an origin. -/
def Origin.code : Origin → String
  | .builtin => "builtin"
  | .custom => "custom"

/-- How the versions of a scheme are read and written. Any text can be read. -/
structure Codec where
  /-- The version that a text writes. -/
  parse : Text → Version
  /-- The text of a version. -/
  render : Version → Except Fault Text
  /-- A text read as a version and written again. -/
  normalize : Text → Except Fault Text := fun text => render (parse text)

/-- A version scheme. -/
structure Scheme where
  /-- What the scheme is known by. -/
  code : String
  /-- Where the scheme comes from. -/
  origin : Origin := .custom
  /-- How version parts compare. -/
  comparator : Comparator
  /-- How texts divide into version and build parts. -/
  layout : Layout := Layout.noBuild
  /-- How versions are written. -/
  style : Style := Style.omitBuild
  /-- A division of texts that takes the place of the layout's when versions are written. -/
  division? : Option (Text → Parts) := none
  /-- A codec that takes the place of the default one. -/
  codec? : Option Codec := none

namespace Scheme

/-- A scheme of the caller's own: it needs a code that is not blank, and a comparator. -/
def make (code : String) (comparator? : Option Comparator) (layout : Layout) (style : Style)
    (codec? : Option Codec) : Except Fault Scheme :=
  if Text.allBlank code.toList then
    .error (.scheme (.blankCode .scheme))
  else match comparator? with
    | none => .error (.scheme (.missingComparator code))
    | some comparator => .ok { code, comparator, layout, style, codec? }

/-- The parts of a text, as they are written. -/
def split (scheme : Scheme) (text : Text) : Parts :=
  match scheme.division? with
  | some division => division text
  | none => scheme.layout.split text

/-- The comparator that decides precedence: the scheme's own, on version parts only if the layout
asks for it. -/
def precedence (scheme : Scheme) : Comparator :=
  if scheme.layout.needsBuildAwareness then .buildAware scheme.comparator scheme.layout
  else scheme.comparator

/-- The precedence of two versions. -/
def compare (scheme : Scheme) (left right : Version) : Except Fault Int :=
  scheme.precedence.compare left right

/-- The text of a version in the scheme's style. -/
def styled (scheme : Scheme) (v : Version) : Except Fault Text :=
  let parts := scheme.split v.text
  if parts.build.isEmpty then .ok parts.version
  else match scheme.style.buildFormat with
    | .leaveOut => .ok parts.version
    | .emit =>
      if scheme.layout.delimiter.isEmpty then
        .error (.render (.undelimitedBuild scheme.code scheme.layout.code))
      else if scheme.layout.versionFirst then
        .ok (parts.version ++ scheme.layout.delimiter ++ parts.build)
      else
        .ok (parts.build ++ scheme.layout.delimiter ++ parts.version)
    | .mapToQualifier => .ok (scheme.style.foldBuild parts.version parts.build)

/-- The default codec: a text is read without the blanks around it, and a version is written in the
scheme's style. -/
def defaultCodec (scheme : Scheme) : Codec where
  parse text := ⟨Text.trim text⟩
  render := scheme.styled

/-- How the versions of the scheme are read and written. -/
def codec (scheme : Scheme) : Codec :=
  scheme.codec?.getD scheme.defaultCodec

/-- The version that a text writes. -/
def parse (scheme : Scheme) (text : Text) : Version :=
  scheme.codec.parse text

theorem parse_eq_trim {scheme : Scheme} (hcodec : scheme.codec? = none) (t : Text) :
    scheme.parse t = ⟨Text.trim t⟩ := by
  rw [parse, codec, hcodec]
  rfl

/-- The text of a version. -/
def render (scheme : Scheme) (v : Version) : Except Fault Text :=
  scheme.codec.render v

/-- A text read as a version and written again. -/
def normalize (scheme : Scheme) (text : Text) : Except Fault Text :=
  scheme.codec.normalize text

/-- A scheme without a codec of its own trims a text and writes it in its style. -/
theorem normalize_eq_styled {scheme : Scheme} (hcodec : scheme.codec? = none) (t : Text) :
    scheme.normalize t = scheme.styled ⟨Text.trim t⟩ := by
  rw [normalize, codec, hcodec]
  rfl

/-- The written form of a scheme. -/
def display (scheme : Scheme) : String :=
  let kind := match scheme.origin with
    | .builtin => "BuiltinVersionScheme"
    | .custom => "CustomVersionScheme"
  s!"{kind}({quoted scheme.code})"

/-- Practical ordering for Maven and Gradle. -/
def mavenDefault : Scheme :=
  { code := "maven-default", origin := .builtin, comparator := .maven }

/-- Maven ordering; a build part after a plus sign is ignored, and written as a qualifier. -/
def mavenBuildMetadataIgnored : Scheme where
  code := "maven-build-metadata-ignored"
  origin := .builtin
  comparator := .maven
  layout := Layout.buildAfterPlusIgnored
  style := Style.mapBuildToQualifier

/-- Semantic versioning; build metadata is ignored in comparisons and written again. -/
def semverDefault : Scheme where
  code := "semver-default"
  origin := .builtin
  comparator := .semver
  layout := Layout.buildAfterPlusIgnored
  style := Style.emitBuild

/-- Semantic versioning with the build part written first. -/
def semverBuildFirst : Scheme where
  code := "semver-build-first"
  origin := .builtin
  comparator := .semver
  layout := Layout.buildBeforePlusIgnored
  style := Style.emitBuild

/-- Semantic versioning; build parts decide ties. -/
def semverBuildOrdered : Scheme where
  code := "semver-build-ordered"
  origin := .builtin
  comparator := .semver
  layout := Layout.buildAfterPlusOrdered
  style := Style.emitBuild

/-- Calendar versioning by year, month and patch. -/
def calverDefault : Scheme :=
  { code := "calver-default", origin := .builtin, comparator := Comparator.calver }

/-- The schemes that are built in. -/
def builtins : List Scheme :=
  [mavenDefault, mavenBuildMetadataIgnored, semverDefault, semverBuildFirst, semverBuildOrdered,
    calverDefault]

theorem codec?_of_mem_builtins {scheme : Scheme} (h : scheme ∈ builtins) :
    scheme.codec? = none := by
  simp only [builtins, List.mem_cons, List.not_mem_nil, or_false] at h
  rcases h with rfl | rfl | rfl | rfl | rfl | rfl <;> rfl

/-- What codes are told apart by: the code without blanks around it, in lower case. -/
def key (code : String) : Text :=
  Text.lower (Text.trim code.toList)

/-- The built-in scheme with a code; a blank code finds none. -/
def findBuiltin? (code : String) : Option Scheme :=
  if Text.allBlank code.toList then none
  else builtins.find? fun scheme => Text.lower scheme.code.toList = key code

/-- The built-in scheme with a code, which has to be one. -/
def getBuiltin (code? : Option String) : Except Fault Scheme :=
  match code?.bind findBuiltin? with
  | some scheme => .ok scheme
  | none => .error (.scheme (.unknown code? none))

end Scheme

namespace Version

/-- The comparison of two versions without a scheme of one's own: the default scheme decides. -/
def compareDefault (left right : Version) : Except Fault Int :=
  Scheme.mavenDefault.compare left right

/-- The written form of a version. -/
def display (v : Version) : String :=
  s!"Version({quoted v.toString})"

end Version

end VersionOrder
