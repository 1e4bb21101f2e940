import VersionOrder.Fault
import VersionOrder.Interval.Boundary

/-!
# Intervals

An interval has two endpoints, each open, closed or without value, over values that a *domain*
compares and writes. Forming an interval checks that bounded sides have a value, that the left
value does not come after the right one, and that equal values are both included; nothing is
mended.

## Main definitions

- `Domain`: how the values of an interval compare and are written
- `Endpoint`, `Interval`: the sides of an interval and the interval
- `Interval.make`: an interval from boundaries and values
- `Interval.render`: an interval in writing

## Design notes

An endpoint carries a value exactly if it is bounded, so an interval without value on a bounded
side cannot be written down. The order of the values is no part of the type: the same endpoints may
form an interval in one domain and none in another.
-/

namespace VersionOrder

/-- How the values of an interval compare and are written. -/
structure Domain (α : Type) where
  /-- The comparison of two values: negative, zero or positive. -/
  compare : α → α → Except Fault Int
  /-- A value in writing. -/
  render : α → String

/-- One side of an interval. -/
inductive Endpoint (α : Type) where
  /-- No bound on this side. -/
  | unbounded
  /-- A bound, which belongs to the interval or does not. -/
  | bounded (closed : Bool) (value : α)
  deriving DecidableEq, Repr

namespace Endpoint

variable {α β : Type}

/-- The kind of boundary. -/
def boundary : Endpoint α → Boundary
  | .unbounded => .unbounded
  | .bounded true _ => .inclusive
  | .bounded false _ => .exclusive

/-- The value, if there is one. -/
def value? : Endpoint α → Option α
  | .unbounded => none
  | .bounded _ value => some value

/-- Whether there is no bound on this side. -/
def isUnbounded : Endpoint α → Bool
  | .unbounded => true
  | .bounded _ _ => false

/-- The endpoint over another type of values. -/
def map (f : α → β) : Endpoint α → Endpoint β
  | .unbounded => .unbounded
  | .bounded closed value => .bounded closed (f value)

/-- The endpoint of a side with the given boundary; a side without bound drops its value, and a
bounded side needs one. -/
def make (side : Side) (boundary : Boundary) (value? : Option α) : Except Fault (Endpoint α) :=
  match boundary, value? with
  | .unbounded, _ => .ok .unbounded
  | .inclusive, some value => .ok (.bounded true value)
  | .exclusive, some value => .ok (.bounded false value)
  | boundary, none => .error (.interval (.missingValue side boundary.code))

end Endpoint

/-- Two endpoints; the values between them belong to the interval. -/
structure Interval (α : Type) where
  /-- The left endpoint. -/
  left : Endpoint α
  /-- The right endpoint. -/
  right : Endpoint α
  deriving DecidableEq, Repr

namespace Interval

variable {α β : Type}

/-- The interval over another type of values. -/
def map (f : α → β) (i : Interval α) : Interval β :=
  ⟨i.left.map f, i.right.map f⟩

/-- The interval between two endpoints, if the domain admits it. -/
def ofEndpoints (domain : Domain α) (left right : Endpoint α) : Except Fault (Interval α) :=
  match left, right with
  | .bounded leftClosed a, .bounded rightClosed b => do
    let result ← domain.compare a b
    if 0 < result then
      .error (.interval (.reversed (domain.render a) (domain.render b)))
    else if result = 0 ∧ ¬(leftClosed ∧ rightClosed) then
      .error (.interval (.openPoint (domain.render a)))
    else
      return ⟨left, right⟩
  | left, right => .ok ⟨left, right⟩

/-- The interval with the given boundaries and values, if the domain admits it. -/
def make (domain : Domain α) (leftBoundary : Boundary) (leftValue? : Option α)
    (rightBoundary : Boundary) (rightValue? : Option α) : Except Fault (Interval α) := do
  let left ← Endpoint.make .left leftBoundary leftValue?
  let right ← Endpoint.make .right rightBoundary rightValue?
  ofEndpoints domain left right

/-- The interval with boundaries named by words, which have to name boundaries. -/
def ofWords (domain : Domain α) (leftWord : String) (leftValue? : Option α) (rightWord : String)
    (rightValue? : Option α) : Except Fault (Interval α) :=
  match Boundary.ofWord? leftWord, Boundary.ofWord? rightWord with
  | none, _ => .error (.interval (.unknownBoundary .left))
  | some _, none => .error (.interval (.unknownBoundary .right))
  | some leftBoundary, some rightBoundary =>
    make domain leftBoundary leftValue? rightBoundary rightValue?

/-- A value in writing, or a star where there is none. -/
def renderValue (domain : Domain α) (endpoint : Endpoint α) : String :=
  match endpoint.value? with
  | some value => domain.render value
  | none => "*"

/-- An interval in writing, such as `[1, 3)` or `(*, 3]`. -/
def render (domain : Domain α) (i : Interval α) : String :=
  i.left.boundary.leftGlyph ++ renderValue domain i.left ++ ", " ++
    renderValue domain i.right ++ i.right.boundary.rightGlyph

end Interval

end VersionOrder
