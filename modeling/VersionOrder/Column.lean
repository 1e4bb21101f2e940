import VersionOrder.Interval.Versions
import VersionOrder.Registry
import VersionOrder.Sorting

/-!
# Columns of versions

A column holds texts and gaps. Sorting puts the gaps last, the maximum passes over them, and a mask
leaves them open.

## Main definitions

- `Column`: a named column
- `Column.sort`, `Column.max?`: by the precedence of the versions that the texts write
- `Column.mask`: which texts write versions inside an interval
- `Column.keep`: the rows inside an interval
-/

namespace VersionOrder

/-- The cells of a column: texts and gaps, or values of another type. -/
inductive Cells where
  | texts (values : List (Option Text))
  | integers
  | floats
  | booleans
  deriving DecidableEq, Repr

/-- The name of the type of some cells. -/
def Cells.dtype : Cells → String
  | .texts _ => "String"
  | .integers => "Int64"
  | .floats => "Float64"
  | .booleans => "Boolean"

/-- A named column. -/
structure Column where
  /-- The name of the column. -/
  name : String
  /-- The cells, top to bottom. -/
  cells : Cells
  deriving DecidableEq, Repr

/-- An interval to hold cells against. -/
inductive CellRange where
  /-- Versions in the default order. -/
  | plain (interval : Interval Version)
  /-- Versions in the order of a scheme. -/
  | ranked (interval : VersionInterval)

namespace CellRange

/-- Versions in the default order, written as their texts. -/
def defaultDomain : Domain Version where
  compare := Version.compareDefault
  render := Version.toString

/-- Whether the version that a text writes lies in a range. -/
def contains (range : CellRange) (text : Text) : Except Fault Bool :=
  match range with
  | .plain i => i.contains defaultDomain ⟨Text.trim text⟩
  | .ranked i => i.contains (i.scheme.parse text)

end CellRange

namespace Column

/-- The texts and gaps of a column, which has to hold nothing else. -/
def texts (column : Column) : Except Fault (List (Option Text)) :=
  match column.cells with
  | .texts values => .ok values
  | other => .error (.refusal (.columnNotText column.name other.dtype))

/-- Whether the version that one text writes comes strictly before another's. -/
def textBefore (scheme : Scheme) (left right : Text) : Except Fault Bool :=
  return (← scheme.compare (scheme.parse left) (scheme.parse right)) < 0

/-- Texts in the order of the versions they write, ties in their given order. -/
def sortTexts (scheme : Scheme) (descending : Bool) (texts : List Text) :
    Except Fault (List Text) :=
  if descending then Sorting.sortDescending (textBefore scheme) texts
  else Sorting.sort (textBefore scheme) texts

/-- A column with its texts sorted and its gaps last. -/
def sort (column : Column) (scheme : SchemeRef) (descending : Bool) : Except Fault Column := do
  let values ← column.texts
  let scheme ← Registry.resolve none scheme
  let present := values.filterMap id
  let gaps := values.length - present.length
  let sorted ← sortTexts scheme descending present
  return { column with cells := .texts (sorted.map some ++ List.replicate gaps none) }

/-- The first of the texts that write the highest version. -/
def max? (column : Column) (scheme : SchemeRef) : Except Fault (Option Text) := do
  let values ← column.texts
  let scheme ← Registry.resolve none scheme
  Sorting.maximum? (fun left right =>
    return 0 < (← scheme.compare (scheme.parse left) (scheme.parse right))) (values.filterMap id)

/-- For each cell whether its version lies in a range; a gap stays a gap. -/
def mask (column : Column) (range : CellRange) : Except Fault (List (Option Bool)) := do
  (← column.texts).mapM fun value? =>
    match value? with
    | none => return none
    | some text => return some (← range.contains text)

/-- The cells whose versions lie in a range, each with its row. -/
def keep (column : Column) (range : CellRange) : Except Fault (List (Nat × Text)) := do
  let values ← column.texts
  let mask ← column.mask range
  return ((List.range values.length).zip (values.zip mask)).filterMap fun (row, value?, inside?) =>
    match value?, inside? with
    | some text, some true => some (row, text)
    | _, _ => none

end Column

end VersionOrder
