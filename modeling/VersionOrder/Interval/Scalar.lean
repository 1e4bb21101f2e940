import VersionOrder.Interval.Versions
import VersionOrder.Number

/-!
# Scalars

The values with an order of their own: truth values, whole numbers and floating-point numbers,
which compare with each other by their exact size, texts in code-point order, and versions in the
order of the default scheme. A value that is no number ties with every number.

## Main definitions

- `Scalar`: the values
- `Scalar.natural`: their domain
- `Scalar.same`: whether two values are equal
-/

namespace VersionOrder

/-- A value with an order of its own. -/
inductive Scalar where
  | boolean (b : Bool)
  | integer (n : Int)
  | real (x : Binary64)
  | text (s : Text)
  | version (v : Version)
  deriving DecidableEq, Repr

namespace Scalar

/-- The name of the kind of a value. -/
def kind : Scalar → String
  | .boolean _ => "bool"
  | .integer _ => "int"
  | .real _ => "float"
  | .text _ => "str"
  | .version _ => "Version"

/-- A value in writing. -/
def render : Scalar → String
  | .boolean b => if b then "True" else "False"
  | .integer n => s!"{n}"
  | .real x => x.display
  | .text s => String.ofList s
  | .version v => v.toString

/-- The number that a value counts as, if it does; the truth values count as zero and one. -/
def number? : Scalar → Option Number
  | .boolean b => some (.integer (if b then 1 else 0))
  | .integer n => some (.integer n)
  | .real x => some (.real x)
  | _ => none

/-- The comparison of two values of related kinds. -/
def compare (left right : Scalar) : Except Fault Int :=
  match left, right with
  | .text s, .text t => .ok (Text.compare s t)
  | .version v, .version w => v.compareDefault w
  | left, right =>
    match left.number?, right.number? with
    | some m, some n => .ok ((m.compare? n).getD 0)
    | _, _ => .error (.refusal (.incomparable left.kind right.kind))

/-- Whether two values are equal: numbers of the same size, or texts or versions written alike. -/
def same (left right : Scalar) : Bool :=
  match left, right with
  | .text s, .text t => s = t
  | .version v, .version w => v = w
  | left, right =>
    match left.number?, right.number? with
    | some m, some n => m.same n
    | _, _ => false

/-- The values in their own order. -/
def natural : Domain Scalar where
  compare := compare
  render := render

end Scalar

end VersionOrder
