/-!
# Boundaries

A boundary is one side of an interval: it excludes its value, includes it, or has none.
-/

namespace VersionOrder

/-- The kind of one side of an interval. -/
inductive Boundary where
  /-- The value itself does not belong to the interval. -/
  | exclusive
  /-- The value itself belongs to the interval. -/
  | inclusive
  /-- There is no value on this side. -/
  | unbounded
  deriving DecidableEq, Repr

namespace Boundary

/-- The word for a kind of boundary. -/
def code : Boundary → String
  | .exclusive => "open"
  | .inclusive => "closed"
  | .unbounded => "unbounded"

/-- The kind of boundary that a word names. -/
def ofWord? (word : String) : Option Boundary :=
  [exclusive, inclusive, unbounded].find? fun boundary => boundary.code = word

/-- Whether the value itself is included. -/
def isClosed (boundary : Boundary) : Bool :=
  boundary = .inclusive

/-- Whether the value itself is excluded; a side without value counts as open. -/
def isOpen (boundary : Boundary) : Bool :=
  !boundary.isClosed

/-- Whether the side has no value. -/
def ignoresValue (boundary : Boundary) : Bool :=
  boundary = .unbounded

/-- The bracket of a left side. -/
def leftGlyph (boundary : Boundary) : String :=
  if boundary.isClosed then "[" else "("

/-- The bracket of a right side. -/
def rightGlyph (boundary : Boundary) : String :=
  if boundary.isClosed then "]" else ")"

end Boundary

end VersionOrder
