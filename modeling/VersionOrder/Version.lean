import VersionOrder.Token

/-!
# Versions

A version is its text. Two versions are the same value only if they are written alike, whatever
precedence a scheme gives them.
-/

namespace VersionOrder

/-- A version, as it is written. -/
structure Version where
  /-- The text of the version. -/
  text : Text
  deriving DecidableEq, Repr

namespace Version

/-- The version that a string writes. -/
def ofString (s : String) : Version :=
  ⟨s.toList⟩

/-- The text of a version as a string. -/
def toString (v : Version) : String :=
  String.ofList v.text

/-- The tokens of a version. -/
def tokens (v : Version) : List Token :=
  tokenize v.text

end Version

end VersionOrder
