import VersionOrder.Fault
import VersionOrder.Text.Case
import VersionOrder.Text.Cut

/-!
# Layouts

A layout says where the build part of a version text stands, before or after the version part, how
the two are delimited, and whether build parts count when versions tie.

## Main definitions

- `BuildComparison`: whether build parts are compared
- `Parts`: a text divided into its version part and its build part
- `Layout`: a layout, and the four that are built in
- `Layout.split`: the division of a text at its first delimiter
-/

namespace VersionOrder

/-- The spelling of a word that names a policy: trimmed, in lower case, with hyphens. -/
def policyWord (word : String) : Text :=
  Text.replaceChar '_' '-' (Text.lower (Text.trim word.toList))

/-- Whether build parts decide between versions that tie. -/
inductive BuildComparison where
  | ignore
  | tokenCompare
  deriving DecidableEq, Repr

namespace BuildComparison

/-- The word for a policy. -/
def code : BuildComparison → String
  | .ignore => "ignore"
  | .tokenCompare => "token-compare"

/-- The policy that a word names, in any case and with either hyphens or underscores. -/
def ofWord (word : String) : Except Refusal BuildComparison :=
  let spelling := policyWord word
  if spelling = BuildComparison.ignore.code.toList then .ok .ignore
  else if spelling = BuildComparison.tokenCompare.code.toList then .ok .tokenCompare
  else .error (.unknownComparisonPolicy word)

end BuildComparison

/-- A text divided into its version part and its build part. -/
structure Parts where
  /-- The part that decides precedence. -/
  version : Text
  /-- The part that identifies a build; empty if there is none. -/
  build : Text
  deriving DecidableEq, Repr

/-- How a version text divides into a version part and a build part. -/
structure Layout where
  /-- What the layout is known by. -/
  code : String
  /-- Whether the version part comes first. -/
  versionFirst : Bool := true
  /-- What stands between the parts; empty if texts have no build part. -/
  delimiter : Text := []
  /-- Whether build parts are compared. -/
  comparison : BuildComparison := .ignore
  deriving DecidableEq, Repr

namespace Layout

/-- A layout as given, unless its code is blank. -/
def validate (layout : Layout) : Except Fault Layout :=
  if Text.allBlank layout.code.toList then .error (.scheme (.blankCode .layout)) else .ok layout

/-- Whether texts may have a build part. -/
def hasBuildSection (layout : Layout) : Bool :=
  !layout.delimiter.isEmpty

/-- Whether build parts are compared; without a build section they never are. -/
def effectiveComparison (layout : Layout) : BuildComparison :=
  if layout.hasBuildSection then layout.comparison else .ignore

/-- Whether a comparison has to set the build part aside first. -/
def needsBuildAwareness (layout : Layout) : Bool :=
  layout.hasBuildSection || !layout.versionFirst || layout.effectiveComparison ≠ .ignore

/-- The parts of a text: what stands on either side of the first delimiter. A text without the
delimiter is all version. -/
def split (layout : Layout) (text : Text) : Parts :=
  if layout.delimiter.isEmpty then ⟨text, []⟩
  else match Text.cutAt? layout.delimiter text with
    | none => ⟨text, []⟩
    | some (first, second) =>
      if layout.versionFirst then ⟨first, second⟩ else ⟨second, first⟩

/-- Texts have no build part. -/
def noBuild : Layout :=
  { code := "no-build" }

/-- The build part follows a plus sign and never counts. -/
def buildAfterPlusIgnored : Layout :=
  { code := "build-after-plus-ignored", delimiter := ['+'] }

/-- The build part follows a plus sign and decides ties. -/
def buildAfterPlusOrdered : Layout :=
  { code := "build-after-plus-ordered", delimiter := ['+'], comparison := .tokenCompare }

/-- The build part precedes a plus sign and never counts. -/
def buildBeforePlusIgnored : Layout :=
  { code := "build-before-plus-ignored", versionFirst := false, delimiter := ['+'] }

/-- The layouts that are built in. -/
def builtin : List Layout :=
  [noBuild, buildAfterPlusIgnored, buildAfterPlusOrdered, buildBeforePlusIgnored]

end Layout

end VersionOrder
