import VersionOrder.Item
import VersionOrder.Version

/-!
# Semantic versioning order

Qualifiers compare in code-point order, every qualifier comes before a plain release, and nothing
after a separator with a plus sign counts.
-/

namespace VersionOrder

namespace Semver

/-- The order of pre-release identifiers. -/
def order : QualifierOrder where
  compare := Text.compare
  compareToRelease _ := -1

/-- The items of a version, build metadata left out. -/
def items (v : Version) : List Item :=
  Item.ofTokens true v.tokens

/-- The comparison of two versions. -/
def compare (left right : Version) : Int :=
  Item.compareAll order (items left) (items right)

end Semver

end VersionOrder
