import VersionOrder.Scheme

/-!
# Qualifiers

A qualifier tells the release status of a version, such as a snapshot or a release candidate. Its
text has one canonical form; from the text alone, qualifiers before and after a release cannot be
told apart, and both are read as standing before it.

## Main definitions

- `QualifierKind`: the release statuses
- `QualifierKind.format`: the canonical text of a kind with a label
- `QualifierKind.detect`: the kind that a text shows
- `Qualifier`: a kind with its label
- `Qualifier.parse`, `Qualifier.text`: reading and writing qualifiers
- `Qualifier.extract`: the qualifier of a version
-/

namespace VersionOrder

/-- A release status. -/
inductive QualifierKind where
  | snapshot
  | preRelease
  | release
  | postRelease
  deriving DecidableEq, Repr

namespace QualifierKind

/-- The kinds, in order. -/
def all : List QualifierKind :=
  [.snapshot, .preRelease, .release, .postRelease]

/-- The word for a kind. -/
def code : QualifierKind → String
  | .snapshot => "snapshot"
  | .preRelease => "pre-release"
  | .release => "release"
  | .postRelease => "post-release"

/-- The kind with a code, spelled exactly. -/
def find? (code : String) : Option QualifierKind :=
  all.find? fun kind => kind.code = code

/-- The kind with a code, which has to be one. -/
def ofCode (code : String) : Except Fault QualifierKind :=
  match find? code with
  | some kind => .ok kind
  | none => .error (.refusal (.unknownQualifierKind code))

/-- Whether a qualifier of the kind may have a label. -/
def labelAllowed (kind : QualifierKind) : Bool :=
  kind ≠ .release

/-- Whether a qualifier of the kind must have a label. -/
def labelRequired (kind : QualifierKind) : Bool :=
  kind = .preRelease || kind = .postRelease

/-- The word that marks a snapshot. -/
def snapshotText : Text :=
  "SNAPSHOT".toList

/-- The canonical text of a kind with a label: none for a release, the label itself before and
after a release, and the snapshot word with its label, if any, for a snapshot. -/
def format (kind : QualifierKind) (label? : Option Text) : Except Fault Text :=
  let label := label?.getD []
  let blank := Text.allBlank label
  match kind with
  | .release => if blank then .ok [] else .error (.render .labelledRelease)
  | .preRelease | .postRelease =>
    if blank then .error (.render (.missingLabel kind.code)) else .ok label
  | .snapshot => if blank then .ok snapshotText else .ok (snapshotText ++ '.' :: label)

/-- The kind that a qualifier text shows. A blank text is a release; the snapshot word counts in
any case, alone or before a dot. -/
def detect (text? : Option Text) : QualifierKind :=
  let text := text?.getD []
  if Text.allBlank text then .release
  else
    let upper := Text.upper text
    if upper = snapshotText || (snapshotText ++ ['.']).isPrefixOf upper then .snapshot
    else .preRelease

end QualifierKind

/-- A release status with its label. -/
structure Qualifier where
  /-- The release status. -/
  kind : QualifierKind
  /-- The label, if there is one. -/
  label? : Option Text := none
  deriving DecidableEq, Repr

namespace Qualifier

/-- The canonical text of a qualifier. -/
def text (q : Qualifier) : Except Fault Text :=
  q.kind.format q.label?

/-- The qualifier that a text writes. The label of a snapshot is what follows the dot. -/
def parse (text? : Option Text) : Qualifier :=
  match QualifierKind.detect text? with
  | .snapshot =>
    let rest := (text?.getD []).drop (QualifierKind.snapshotText.length + 1)
    { kind := .snapshot, label? := if rest.isEmpty then none else some rest }
  | .release => { kind := .release }
  | kind => { kind, label? := text? }

/-- The qualifier of a version under a scheme: what follows the first qualifier delimiter in the
version part. -/
def extract (v : Version) (scheme : Scheme) : Qualifier :=
  let version := (scheme.split (Text.trim v.text)).version
  if scheme.style.qualifierDelimiter.isEmpty then { kind := .release }
  else match Text.cutAt? scheme.style.qualifierDelimiter version with
    | none => { kind := .release }
    | some (_, after) => parse (some after)

end Qualifier

end VersionOrder
