import VersionOrder.Interval.Basic

/-!
# The algebra of intervals

Membership, intersection, order and precedence of intervals over one domain. All of them ask only
the domain's comparison, and in a fixed order; no axiom about it is assumed.

## Main definitions

- `Interval.contains`: whether a value lies in an interval
- `Interval.isSatisfiable`: whether an interval can have a member
- `Interval.tryIntersect`, `Interval.intersect`, `Interval.overlaps`: what two intervals share
- `Interval.compare`: the order by left endpoint, then by right endpoint
- `Interval.isStrictlyBefore`: whether an interval ends before another begins
-/

namespace VersionOrder

namespace Interval

variable {α : Type}

/-- Whether a value is not cut off by a left endpoint. -/
def admitsFromLeft (domain : Domain α) (left : Endpoint α) (value : α) : Except Fault Bool :=
  match left with
  | .unbounded => .ok true
  | .bounded closed bound => do
    let result ← domain.compare value bound
    return !(result < 0 || (result = 0 && !closed))

/-- Whether a value is not cut off by a right endpoint. -/
def admitsFromRight (domain : Domain α) (right : Endpoint α) (value : α) : Except Fault Bool :=
  match right with
  | .unbounded => .ok true
  | .bounded closed bound => do
    let result ← domain.compare value bound
    return !(0 < result || (result = 0 && !closed))

/-- Whether a value lies in an interval. The right endpoint is looked at only if the left one
admits the value. -/
def contains (domain : Domain α) (i : Interval α) (value : α) : Except Fault Bool := do
  if ← admitsFromLeft domain i.left value then
    admitsFromRight domain i.right value
  else
    return false

/-- Whether a value lies in an interval, asked of a value that may be missing. -/
def containsOption (domain : Domain α) (i : Interval α) : Option α → Except Fault Bool
  | none => .error (.refusal .absentValue)
  | some value => contains domain i value

/-- Whether two endpoints leave room for a value: the left value comes first, or both are equal and
included. -/
def leavesRoom (domain : Domain α) (left right : Endpoint α) : Except Fault Bool :=
  match left, right with
  | .bounded leftClosed a, .bounded rightClosed b => do
    let result ← domain.compare a b
    return result < 0 || (result = 0 && leftClosed && rightClosed)
  | _, _ => .ok true

/-- Whether an interval can have a member. -/
def isSatisfiable (domain : Domain α) (i : Interval α) : Except Fault Bool :=
  leavesRoom domain i.left i.right

/-- The later of two left endpoints; at equal values, one that both intervals share. -/
def maxLeft (domain : Domain α) (mine theirs : Endpoint α) : Except Fault (Endpoint α) :=
  match mine, theirs with
  | .unbounded, theirs => .ok theirs
  | mine, .unbounded => .ok mine
  | .bounded mineClosed a, .bounded theirsClosed b => do
    let result ← domain.compare a b
    if 0 < result then return .bounded mineClosed a
    else if result < 0 then return .bounded theirsClosed b
    else return .bounded (mineClosed && theirsClosed) a

/-- The earlier of two right endpoints; at equal values, one that both intervals share. -/
def minRight (domain : Domain α) (mine theirs : Endpoint α) : Except Fault (Endpoint α) :=
  match mine, theirs with
  | .unbounded, theirs => .ok theirs
  | mine, .unbounded => .ok mine
  | .bounded mineClosed a, .bounded theirsClosed b => do
    let result ← domain.compare a b
    if result < 0 then return .bounded mineClosed a
    else if 0 < result then return .bounded theirsClosed b
    else return .bounded (mineClosed && theirsClosed) a

/-- What two intervals share, if they share anything. -/
def tryIntersect (domain : Domain α) (mine theirs : Interval α) :
    Except Fault (Option (Interval α)) := do
  let left ← maxLeft domain mine.left theirs.left
  let right ← minRight domain mine.right theirs.right
  if ← leavesRoom domain left right then
    return some (← ofEndpoints domain left right)
  else
    return none

/-- What two intervals share; they have to share something. -/
def intersect (domain : Domain α) (mine theirs : Interval α) : Except Fault (Interval α) := do
  match ← tryIntersect domain mine theirs with
  | some shared => return shared
  | none =>
    .error (.interval (.disjoint (mine.render domain) (theirs.render domain)))

/-- Whether two intervals share anything. -/
def overlaps (domain : Domain α) (mine theirs : Interval α) : Except Fault Bool :=
  return (← tryIntersect domain mine theirs).isSome

/-- The order of left endpoints: one without bound first, a closed one before an open one at the
same value. -/
def compareLeft (domain : Domain α) (mine theirs : Endpoint α) : Except Fault Int :=
  match mine, theirs with
  | .unbounded, .unbounded => .ok 0
  | .unbounded, .bounded _ _ => .ok (-1)
  | .bounded _ _, .unbounded => .ok 1
  | .bounded mineClosed a, .bounded theirsClosed b => do
    let result ← domain.compare a b
    if result ≠ 0 then return result
    else if mineClosed = theirsClosed then return 0
    else return if mineClosed then -1 else 1

/-- The order of right endpoints: one without bound last, a closed one after an open one at the
same value. -/
def compareRight (domain : Domain α) (mine theirs : Endpoint α) : Except Fault Int :=
  match mine, theirs with
  | .unbounded, .unbounded => .ok 0
  | .unbounded, .bounded _ _ => .ok 1
  | .bounded _ _, .unbounded => .ok (-1)
  | .bounded mineClosed a, .bounded theirsClosed b => do
    let result ← domain.compare a b
    if result ≠ 0 then return result
    else if mineClosed = theirsClosed then return 0
    else return if mineClosed then 1 else -1

/-- The order of intervals: by left endpoint, then by right endpoint. -/
def compare (domain : Domain α) (mine theirs : Interval α) : Except Fault Int := do
  let result ← compareLeft domain mine.left theirs.left
  if result ≠ 0 then return result
  else compareRight domain mine.right theirs.right

/-- Whether an interval ends before another begins. Intervals that touch at a value leave a gap if
one of them excludes it. -/
def isStrictlyBefore (domain : Domain α) (mine theirs : Interval α) : Except Fault Bool :=
  match mine.right, theirs.left with
  | .bounded mineClosed a, .bounded theirsClosed b => do
    let result ← domain.compare a b
    return result < 0 || (result = 0 && !(mineClosed && theirsClosed))
  | _, _ => .ok false

end Interval

end VersionOrder
