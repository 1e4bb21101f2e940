import VersionOrder.Item
import VersionOrder.Text.Case
import VersionOrder.Version

/-!
# Maven-like order

Qualifiers compare without regard to case. Some are other names of a plain release or of a release
candidate; those with a rank compare by it, and all others stand at the rank of a release, in
code-point order.

## Main definitions

- `Maven.canonical`: the canonical name of a qualifier
- `Maven.rank?`: the rank of a canonical name
- `Maven.order`, `Maven.compare`: the order of qualifiers and of versions
-/

namespace VersionOrder

namespace Maven

/-- The names of a plain release. -/
def releaseNames : List Text :=
  ["ga".toList, "final".toList, "release".toList]

/-- The canonical name of a qualifier: in lower case, with the names of a plain release left out
and one name for release candidates. -/
def canonical (qualifier : Text) : Text :=
  let name := Text.lower qualifier
  if name ∈ releaseNames then []
  else if name = "cr".toList then "rc".toList
  else name

/-- The ranked names; a plain release has no name and rank zero. -/
def ranks : List (Text × Int) :=
  [("snapshot".toList, -50), ("alpha".toList, -40), ("a".toList, -40), ("beta".toList, -30),
    ("b".toList, -30), ("milestone".toList, -20), ("m".toList, -20), ("rc".toList, -10), ([], 0),
    ("sp".toList, 10)]

/-- The rank of a canonical name, if it has one. -/
def rank? (name : Text) : Option Int :=
  ranks.lookup name

/-- The place of a canonical name: its rank, or that of a release. -/
def rank (name : Text) : Int :=
  (rank? name).getD 0

/-- The comparison of two qualifiers: by rank, then by canonical name. -/
def compareQualifiers (left right : Text) : Int :=
  let p := canonical left
  let q := canonical right
  if rank p = rank q then Text.compare p q else signum (rank p) (rank q)

/-- The Maven-like order of qualifiers; the end of a version is the unnamed release. -/
def order : QualifierOrder where
  compare := compareQualifiers
  compareToRelease q := compareQualifiers q []

/-- The items of a version. -/
def items (v : Version) : List Item :=
  Item.ofTokens false v.tokens

/-- The Maven-like comparison of two versions. -/
def compare (left right : Version) : Int :=
  Item.compareAll order (items left) (items right)

end Maven

end VersionOrder
