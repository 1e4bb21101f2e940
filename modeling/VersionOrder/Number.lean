import VersionOrder.Binary64

/-!
# Numbers

Whole numbers and floating-point numbers side by side, compared by their exact size.

## Main definitions

- `Number`: a number of either kind
- `Number.compare?`: the exact comparison
-/

namespace VersionOrder

/-- A whole number or a floating-point number. -/
inductive Number where
  | integer (n : Int)
  | real (x : Binary64)
  deriving DecidableEq, Repr

namespace Number

/-- The comparison of two numbers, if they have an order. -/
def compare? : Number → Number → Option Int
  | .integer m, .integer n => some (signum m n)
  | .real x, .real y => x.compare? y
  | .real x, .integer n => x.compareInt? n
  | .integer n, .real x => (x.compareInt? n).map fun r => -r

/-- Whether two numbers have the same size; the result of an undefined operation has none. -/
def same (left right : Number) : Bool :=
  left.compare? right = some 0

end Number

end VersionOrder
