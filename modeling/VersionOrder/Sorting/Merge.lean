import VersionOrder.Sorting.Search

/-!
# Merging runs

Two sorted lists, of which one stands before the other, are merged into one; of elements that tie,
those of the left list come first. What is in place already is set aside; the rest is merged from
the end where the shorter list is used up sooner. Elements are compared one by one until a list has
given many in a row; then the lists are searched in strides. How many count as many is learnt from
merge to merge.

## Main definitions

- `Sorting.Pace`: how a merge goes on
- `Sorting.mergeFrom`: a merge from one end
- `Sorting.merge`: the merge of two runs
-/

namespace VersionOrder

namespace Sorting

variable {m : Type → Type} [Monad m] {α : Type}

/-- How a merge goes on. -/
inductive Pace where
  /-- One by one; the lists have just given so many elements in a row. -/
  | single (lefts rights : Nat)
  /-- By a stride through the left list, in the first round of strides or in one `again`. -/
  | strideLeft (again : Bool)
  /-- By a stride through the right list; that through the left one took so many elements. -/
  | strideRight (taken : Nat)
  deriving DecidableEq, Repr

/-- How many elements a list gives in a stride that is worth another round. -/
def longStride : Nat := 7

/-- What follows if nothing remains to be compared: one list is used up, or the last element of the
shorter one is left, which comes last. The shorter one is the left list in a merge that goes
`forward`, else the right one. -/
def remainder? (forward : Bool) (left right : List α) : Option (List α) :=
  match forward, left, right with
  | true, _, [] => some left
  | true, [], _ => some right
  | true, [last], _ => some (right ++ [last])
  | false, [], _ => some right
  | false, _, [] => some left
  | false, _, [last] => some (left ++ [last])
  | _, _, _ => none

/-- The merge of two lists, and the patience after it: how many elements one list gives in a row
before the pace changes. The test `leads x y` says whether `x`, from the left list, comes before
`y`, from the right one. -/
def mergeFrom (leads : α → α → m Bool) (forward : Bool) (pace : Pace) (patience : Nat)
    (left right : List α) : m (List α × Nat) :=
  match remainder? forward left right, left, right with
  | some rest, _, _ => return (rest, patience)
  | none, x :: xs, y :: ys =>
    match pace with
    | .single lefts rights => do
      if ← leads x y then
        let pace := if patience ≤ lefts + 1 then .strideLeft false else .single (lefts + 1) 0
        let (merged, patience) ← mergeFrom leads forward pace patience xs (y :: ys)
        return (x :: merged, patience)
      else
        let pace := if patience ≤ rights + 1 then .strideLeft false else .single 0 (rights + 1)
        let (merged, patience) ← mergeFrom leads forward pace patience (x :: xs) ys
        return (y :: merged, patience)
    | .strideLeft again => do
      let patience := if again then max 1 (patience - 1) else patience
      let taken ← leading forward (fun x => leads x y) (x :: xs)
      let rest := (x :: xs).drop taken
      match remainder? forward rest (y :: ys) with
      | some tail => return ((x :: xs).take taken ++ tail, patience)
      | none =>
        let (merged, patience) ← mergeFrom leads forward (.strideRight taken) patience rest ys
        return ((x :: xs).take taken ++ y :: merged, patience)
    | .strideRight before => do
      let taken ← leading forward (fun y => return !(← leads x y)) (y :: ys)
      let rest := (y :: ys).drop taken
      match remainder? forward (x :: xs) rest, remainder? forward xs rest with
      | some tail, _ => return ((y :: ys).take taken ++ tail, patience)
      | none, some tail => return ((y :: ys).take taken ++ x :: tail, patience)
      | none, none =>
        let again := longStride ≤ before || longStride ≤ taken
        let (merged, patience) ←
          if again then mergeFrom leads forward (.strideLeft true) patience xs rest
          else mergeFrom leads forward (.single 0 0) (patience + 1) xs rest
        return ((y :: ys).take taken ++ x :: merged, patience)
  | none, left, right => return (left ++ right, patience)
termination_by left.length + right.length
decreasing_by
  all_goals simp_wf
  all_goals omega

/-- The merge of two sorted lists, and the patience after it. The test `before x y` says whether `x`
comes strictly before `y`. -/
def merge (before : α → α → m Bool) (patience : Nat) (left right : List α) :
    m (List α × Nat) := do
  match right with
  | [] => return (left, patience)
  | first :: _ =>
    let below ← leading true (fun x => return !(← before first x)) left
    let low := left.take below
    let left := left.drop below
    match left.getLast? with
    | none => return (low ++ right, patience)
    | some last =>
      let above ← leading false (fun y => return !(← before y last)) right.reverse
      let high := right.drop (right.length - above)
      let right := right.take (right.length - above)
      let leads (x y : α) : m Bool := return !(← before y x)
      match right, left.reverse with
      | [], _ | _, [] => return (low ++ left ++ right ++ high, patience)
      | y :: ys, x :: xs =>
        if left.length ≤ right.length then
          let (merged, patience) ← mergeFrom leads true (.single 0 0) patience left ys
          return (low ++ y :: merged ++ high, patience)
        else
          let (merged, patience) ←
            mergeFrom (fun x y => before y x) false (.single 0 0) patience xs right.reverse
          return (low ++ (x :: merged).reverse ++ high, patience)

end Sorting

end VersionOrder
