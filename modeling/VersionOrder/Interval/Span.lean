import VersionOrder.Interval.Scalar
import VersionOrder.Interval.Shape

/-!
# Spans

A span is an interval that knows the order of its values: their own order, or that of a scheme.
Where two spans are combined, the order of the first one counts, and so does its kind. Under a
scheme, texts are read as versions; other values are taken as they are, and refused only where they
are to be compared.

## Main definitions

- `SpanOrder`: the orders
- `Span`: an interval with its order
- `Span.tryIntersect`, `Span.compare`, `Span.isStrictlyBefore`: the algebra of spans
- `Span.same`: whether two spans are equal
-/

namespace VersionOrder

/-- The part of a version that a comparator looks at, as a refusal names it. -/
def Comparator.partRead : Comparator → String
  | .maven | .semver | .calendar _ => "tokens"
  | .rule _ | .buildAware _ _ => "original_text"

/-- Scalars in the order of a scheme, which places only versions. -/
def Scheme.scalarDomain (scheme : Scheme) : Domain Scalar where
  compare left right :=
    let refuse (value : Scalar) : Except Fault Int :=
      .error (.refusal (.notVersion value.kind scheme.precedence.partRead))
    match left, right with
    | .version v, .version w => scheme.compare v w
    | .version _, value | value, _ => refuse value
  render := Scalar.render

/-- The order that the values of a span follow. -/
inductive SpanOrder where
  /-- The values' own order. -/
  | natural
  /-- The order of a scheme. -/
  | ranked (scheme : Scheme)

namespace SpanOrder

/-- The scheme, if the order is that of one. -/
def scheme? : SpanOrder → Option Scheme
  | .natural => none
  | .ranked scheme => some scheme

/-- The domain of the values. -/
def domain : SpanOrder → Domain Scalar
  | .natural => Scalar.natural
  | .ranked scheme => scheme.scalarDomain

/-- A value as it enters a span: under a scheme, a text is read as a version. -/
def read (order : SpanOrder) (value : Scalar) : Scalar :=
  match order, value with
  | .ranked scheme, .text s => .version (scheme.parse s)
  | _, value => value

end SpanOrder

/-- An interval that knows the order of its values. -/
structure Span where
  /-- The order of the values. -/
  order : SpanOrder
  /-- The endpoints. -/
  interval : Interval Scalar

namespace Span

/-- The domain of a span's values. -/
def domain (span : Span) : Domain Scalar :=
  span.order.domain

/-- The scheme whose order a span follows, if it follows one. -/
def scheme? (span : Span) : Option Scheme :=
  span.order.scheme?

/-- What two spans share, if they share anything. Spans of two schemes are not combined. -/
def tryIntersect (mine theirs : Span) : Except Fault (Option Span) := do
  match mine.scheme?, theirs.scheme? with
  | some scheme, some other => scheme.agree other
  | _, _ => .ok ()
  let shared? ← mine.interval.tryIntersect mine.domain theirs.interval
  return shared?.map fun shared => ⟨mine.order, shared.map mine.order.read⟩

/-- A span in writing. -/
def render (span : Span) : String :=
  span.interval.render span.domain

/-- The written form of a span. -/
def display (span : Span) : String :=
  match span.order with
  | .natural => s!"Interval({quoted span.render})"
  | .ranked scheme => s!"VersionInterval({quoted span.render}, scheme={quoted scheme.code})"

/-- What two spans share; they have to share something. -/
def intersect (mine theirs : Span) : Except Fault Span := do
  match ← mine.tryIntersect theirs with
  | some shared => return shared
  | none => .error (.interval (.disjoint mine.render theirs.render))

/-- Whether two spans share anything. -/
def overlaps (mine theirs : Span) : Except Fault Bool :=
  return (← mine.tryIntersect theirs).isSome

/-- The order of spans: by left endpoint, then by right endpoint. -/
def compare (mine theirs : Span) : Except Fault Int :=
  mine.interval.compare mine.domain theirs.interval

/-- Whether a span ends before another begins. -/
def isStrictlyBefore (mine theirs : Span) : Except Fault Bool :=
  mine.interval.isStrictlyBefore mine.domain theirs.interval

/-- Whether a span can have a member. -/
def isSatisfiable (span : Span) : Except Fault Bool :=
  span.interval.isSatisfiable span.domain

/-- Whether a value lies in a span. -/
def contains (span : Span) (value? : Option Scalar) : Except Fault Bool :=
  span.interval.containsOption span.domain (value?.map span.order.read)

/-- Whether two endpoints are equal: of one kind, with equal values. -/
def sameEndpoint (mine theirs : Endpoint Scalar) : Bool :=
  match mine, theirs with
  | .unbounded, .unbounded => true
  | .bounded c a, .bounded d b => c = d && a.same b
  | _, _ => false

/-- Whether two spans are equal: of one kind and scheme, with equal endpoints. -/
def same (mine theirs : Span) : Bool :=
  (mine.scheme?.map Scheme.code) = (theirs.scheme?.map Scheme.code) &&
    sameEndpoint mine.interval.left theirs.interval.left &&
    sameEndpoint mine.interval.right theirs.interval.right

end Span

namespace SpanOrder

/-- The span of a shape with the given values. -/
def ofShape (order : SpanOrder) (shape : Shape) (first? second? : Option Scalar) :
    Except Fault Span := do
  let interval ← Interval.ofShape order.domain shape (first?.map order.read)
    (second?.map order.read)
  return ⟨order, interval⟩

/-- The span with boundaries named by words. -/
def ofWords (order : SpanOrder) (leftWord : String) (left? : Option Scalar) (rightWord : String)
    (right? : Option Scalar) : Except Fault Span := do
  let interval ← Interval.ofWords order.domain leftWord (left?.map order.read) rightWord
    (right?.map order.read)
  return ⟨order, interval⟩

end SpanOrder

end VersionOrder
