import VersionOrder.Layout

/-!
# Styles

A style says what becomes of the build part when a version is written: it is left out, written
behind the delimiter again, or folded into the qualifier section.

## Main definitions

- `BuildFormat`: what becomes of the build part
- `Style`: a style, and the three that are built in
- `Style.foldBuild`: a build part as a qualifier
-/

namespace VersionOrder

/-- What becomes of the build part when a version is written. -/
inductive BuildFormat where
  | leaveOut
  | emit
  | mapToQualifier
  deriving DecidableEq, Repr

namespace BuildFormat

/-- The word for a policy. -/
def code : BuildFormat → String
  | .leaveOut => "omit"
  | .emit => "emit"
  | .mapToQualifier => "map-to-qualifier"

/-- The policy that a word names, in any case and with either hyphens or underscores. -/
def ofWord (word : String) : Except Refusal BuildFormat :=
  let spelling := policyWord word
  if spelling = BuildFormat.leaveOut.code.toList then .ok .leaveOut
  else if spelling = BuildFormat.emit.code.toList then .ok .emit
  else if spelling = BuildFormat.mapToQualifier.code.toList then .ok .mapToQualifier
  else .error (.unknownFormatPolicy word)

end BuildFormat

/-- How versions are written. -/
structure Style where
  /-- What the style is known by. -/
  code : String
  /-- What becomes of the build part. -/
  buildFormat : BuildFormat := .leaveOut
  /-- What stands before a build part that is folded into the qualifier section. -/
  buildLabel : Text := "build".toList
  /-- What starts the qualifier section. -/
  qualifierDelimiter : Text := ['-']
  /-- What separates the tokens of the qualifier section. -/
  tokenDelimiter : Text := ['.']
  deriving DecidableEq, Repr

namespace Style

/-- A style as given, unless its code is blank. -/
def validate (style : Style) : Except Fault Style :=
  if Text.allBlank style.code.toList then .error (.scheme (.blankCode .style)) else .ok style

/-- A version part with a build part folded into its qualifier section, which is started if there
is none yet. -/
def foldBuild (style : Style) (version build : Text) : Text :=
  let mapped := style.buildLabel ++ style.tokenDelimiter ++ build
  if Text.occursIn style.qualifierDelimiter version then
    version ++ style.tokenDelimiter ++ mapped
  else
    version ++ style.qualifierDelimiter ++ mapped

/-- The build part is written behind the delimiter. -/
def emitBuild : Style :=
  { code := "emit-build", buildFormat := .emit }

/-- The build part is left out. -/
def omitBuild : Style :=
  { code := "omit-build" }

/-- The build part is folded into the qualifier section. -/
def mapBuildToQualifier : Style :=
  { code := "map-build-to-qualifier", buildFormat := .mapToQualifier }

/-- The styles that are built in. -/
def builtin : List Style :=
  [emitBuild, omitBuild, mapBuildToQualifier]

end Style

end VersionOrder
