import VersionOrder.Interval.Algebra
import VersionOrder.Scheme

/-!
# Intervals of versions

An interval of versions follows the order of a scheme. Two such intervals are combined only if
their schemes have the same code.

## Main definitions

- `Scheme.domain`: versions in the order of a scheme
- `VersionInterval`: an interval with its scheme
- `VersionInterval.make`, `VersionInterval.contains`, `VersionInterval.tryIntersect`
-/

namespace VersionOrder

/-- A version, or a text still to be read as one. -/
inductive VersionInput where
  | version (v : Version)
  | text (s : Text)
  deriving DecidableEq, Repr

namespace Scheme

/-- The version that an input stands for under a scheme. -/
def read (scheme : Scheme) : VersionInput → Version
  | .version v => v
  | .text s => scheme.parse s

/-- Intervals of two schemes are combined only if the schemes have the same code. -/
def agree (mine theirs : Scheme) : Except Fault Unit :=
  if mine.code = theirs.code then .ok ()
  else .error (.scheme (.mixed mine.code theirs.code))

/-- Versions in the order of a scheme, written as their texts. -/
def domain (scheme : Scheme) : Domain Version where
  compare := scheme.compare
  render := Version.toString

end Scheme

/-- An interval of versions in the order of a scheme. -/
structure VersionInterval where
  /-- The scheme whose order the interval follows. -/
  scheme : Scheme
  /-- The endpoints. -/
  interval : Interval Version

namespace VersionInterval

/-- The interval with the given boundaries and versions, if the scheme's order admits it. -/
def make (scheme : Scheme) (leftBoundary : Boundary) (left? : Option VersionInput)
    (rightBoundary : Boundary) (right? : Option VersionInput) :
    Except Fault VersionInterval := do
  let interval ← Interval.make scheme.domain leftBoundary (left?.map scheme.read)
    rightBoundary (right?.map scheme.read)
  return ⟨scheme, interval⟩

/-- Whether a version lies in an interval. -/
def contains (i : VersionInterval) (v : Version) : Except Fault Bool :=
  i.interval.contains i.scheme.domain v

/-- What two intervals of one scheme share, if they share anything. -/
def tryIntersect (mine theirs : VersionInterval) : Except Fault (Option VersionInterval) := do
  mine.scheme.agree theirs.scheme
  let shared? ← mine.interval.tryIntersect mine.scheme.domain theirs.interval
  return shared?.map fun shared => ⟨mine.scheme, shared⟩

/-- An interval in writing. -/
def render (i : VersionInterval) : String :=
  i.interval.render i.scheme.domain

end VersionInterval

end VersionOrder
