import VersionOrder.Interval.Basic

/-!
# Shapes of intervals

The ten common shapes of an interval, each with fixed boundaries and only the values it needs.
-/

namespace VersionOrder

/-- A shape of intervals. -/
inductive Shape where
  /-- Both values included. -/
  | closed
  /-- Both values excluded. -/
  | opened
  /-- Left value included, right value excluded. -/
  | closedOpen
  /-- Left value excluded, right value included. -/
  | openClosed
  /-- A single value. -/
  | point
  /-- A value and all after it. -/
  | atLeast
  /-- All after a value. -/
  | greaterThan
  /-- A value and all before it. -/
  | atMost
  /-- All before a value. -/
  | lessThan
  /-- All values. -/
  | unbounded
  deriving DecidableEq, Repr

namespace Shape

/-- The shapes, in order. -/
def all : List Shape :=
  [.closed, .opened, .closedOpen, .openClosed, .point, .atLeast, .greaterThan, .atMost, .lessThan,
    .unbounded]

/-- The word for a shape. -/
def code : Shape → String
  | .closed => "closed"
  | .opened => "open"
  | .closedOpen => "closed_open"
  | .openClosed => "open_closed"
  | .point => "point"
  | .atLeast => "at_least"
  | .greaterThan => "greater_than"
  | .atMost => "at_most"
  | .lessThan => "less_than"
  | .unbounded => "unbounded"

/-- The shape that a word names. -/
def ofWord? (word : String) : Option Shape :=
  all.find? fun shape => shape.code = word

/-- The boundary on the left. -/
def leftBoundary : Shape → Boundary
  | .closed | .closedOpen | .point | .atLeast => .inclusive
  | .opened | .openClosed | .greaterThan => .exclusive
  | .atMost | .lessThan | .unbounded => .unbounded

/-- The boundary on the right. -/
def rightBoundary : Shape → Boundary
  | .closed | .openClosed | .point | .atMost => .inclusive
  | .opened | .closedOpen | .lessThan => .exclusive
  | .atLeast | .greaterThan | .unbounded => .unbounded

/-- Whether a shape takes one value for both sides, or for the only bounded one. -/
def takesOneValue : Shape → Bool
  | .point | .atLeast | .greaterThan | .atMost | .lessThan => true
  | _ => false

end Shape

namespace Interval

variable {α : Type}

/-- The interval of a shape with the given values: the first is the left value, the second the
right one, and a shape that takes one value uses the first for both. -/
def ofShape (domain : Domain α) (shape : Shape) (first? second? : Option α) :
    Except Fault (Interval α) :=
  make domain shape.leftBoundary first? shape.rightBoundary
    (if shape.takesOneValue then first? else second?)

end Interval

end VersionOrder
