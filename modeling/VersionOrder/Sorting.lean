import VersionOrder.Sorting.Merge

/-!
# Stable sorting

Sorting by an effectful test, so that a test may fail or leave a trace. A list is cut into runs:
each takes over the elements that are in order already, or strictly in the opposite order, and is
filled up by insertion to a least length. Neighbouring runs are then merged, so that the lengths of
merged runs stay in balance.

## Main definitions

- `Sorting.place`: one element placed into a sorted list
- `Sorting.sort`: a list in ascending order
- `Sorting.sortDescending`: a list in descending order, ties in their given order
- `Sorting.maximum?`: the first of the greatest elements
-/

namespace VersionOrder

namespace Sorting

variable {m : Type → Type} [Monad m] {α : Type}

/-- A sorted list with one more element, placed by bisection before the first element that comes
after it. The test `before x y` says whether `x` comes strictly before `y`. -/
def place (before : α → α → m Bool) (x : α) (xs : List α) : m (List α) := do
  let below ← bisect true (fun y => return !(← before x y)) xs
  return xs.take below ++ x :: xs.drop below

/-- The elements that continue a run after `last`, and the rest of the list. In a run that goes
`down`, each element comes strictly before its predecessor; in the other kind none does. -/
def continueRun (before : α → α → m Bool) (down : Bool) (last : α) :
    List α → m (List α × List α)
  | [] => pure ([], [])
  | x :: rest => do
    if (← before x last) = down then
      let (run, tail) ← continueRun before down x rest
      return (x :: run, tail)
    else
      return ([], x :: rest)

/-- The first run of a list in ascending order, and the rest of the list. -/
def firstRun (before : α → α → m Bool) : List α → m (List α × List α)
  | [] => pure ([], [])
  | [a] => pure ([a], [])
  | a :: b :: rest => do
    let down ← before b a
    let (run, tail) ← continueRun before down b rest
    return (if down then (a :: b :: run).reverse else a :: b :: run, tail)

/-- The least length of a run in a list of a length: the length itself below 64; else it is halved,
rounding up, until it is below. -/
def leastRun (length : Nat) : Nat :=
  let rec halve (fuel length : Nat) (isRounded : Bool) : Nat :=
    match fuel with
    | fuel + 1 =>
      if length < 64 then length + isRounded.toNat
      else halve fuel (length / 2) (isRounded || length % 2 = 1)
    | 0 => length
  halve length length false

/-- A stretch of the list that is sorted. -/
structure Run (α : Type) where
  /-- Where in the list the run starts. -/
  start : Nat
  /-- The elements, in ascending order. -/
  elements : List α
  /-- How often the list is halved until a cut falls between the middle of this run and that of the
  next. -/
  depth : Nat := 0

/-- How often a list is halved until a cut falls between the middles of two neighbouring runs, given
by twice their places. Each halving takes one unit of `fuel`. -/
def cutDepth (fuel length first second : Nat) : Nat :=
  match fuel with
  | 0 => 0
  | fuel + 1 =>
    if length ≤ first then 1 + cutDepth fuel length (2 * (first - length)) (2 * (second - length))
    else if length ≤ second then 1
    else 1 + cutDepth fuel length (2 * first) (2 * second)

/-- How often a list is halved until a cut falls between the middle of a run and that of the next,
which has `next` elements. -/
def Run.depthBefore (run : Run α) (length next : Nat) : Nat :=
  let first := 2 * run.start + run.elements.length
  cutDepth (length + 1) length first (first + run.elements.length + next)

/-- The runs that are sorted so far, the last one first, with the patience of the next merge. -/
structure Progress (α : Type) where
  runs : List (Run α) := []
  patience : Nat := longStride

/-- The merge of the last two runs as long as the cut between them lies deeper than `depth`. -/
def settle (before : α → α → m Bool) (depth patience : Nat) : List (Run α) → m (Progress α)
  | last :: previous :: rest => do
    if depth < previous.depth then
      let (elements, patience) ← merge before patience previous.elements last.elements
      settle before depth patience ({ previous with elements } :: rest)
    else
      return ⟨last :: previous :: rest, patience⟩
  | runs => return ⟨runs, patience⟩
termination_by runs => runs.length

/-- The progress after one more run, in a list of a length. -/
def Progress.push (before : α → α → m Bool) (length : Nat) (progress : Progress α)
    (elements : List α) : m (Progress α) := do
  match progress.runs with
  | [] => return { progress with runs := [{ start := 0, elements }] }
  | last :: _ =>
    let depth := last.depthBefore length elements.length
    let settled ← settle before depth progress.patience progress.runs
    let next : Run α := { start := last.start + last.elements.length, elements }
    match settled.runs with
    | [] => return { settled with runs := [next] }
    | last :: rest => return { settled with runs := next :: { last with depth } :: rest }

/-- The runs of a list as progress, each filled up to the least length. Each run takes one unit of
`fuel`. -/
def pushRuns (before : α → α → m Bool) (length : Nat) (fuel : Nat) (progress : Progress α)
    (xs : List α) : m (Progress α) :=
  match fuel, xs with
  | _, [] => return progress
  | 0, xs => return { progress with runs := { start := 0, elements := xs } :: progress.runs }
  | fuel + 1, xs => do
    let (run, tail) ← firstRun before xs
    let missing := leastRun length - run.length
    let elements ← (tail.take missing).foldlM (fun sorted x => place before x sorted) run
    let progress ← progress.push before length elements
    pushRuns before length fuel progress (tail.drop missing)

/-- All runs merged into one list. -/
def collapse (before : α → α → m Bool) (patience : Nat) : List (Run α) → m (List α)
  | [] => return []
  | [run] => return run.elements
  | [last, previous] => return (← merge before patience previous.elements last.elements).1
  | last :: previous :: earlier :: rest => do
    if earlier.elements.length < last.elements.length then
      let (elements, patience) ← merge before patience earlier.elements previous.elements
      collapse before patience (last :: { earlier with elements } :: rest)
    else
      let (elements, patience) ← merge before patience previous.elements last.elements
      collapse before patience ({ previous with elements } :: earlier :: rest)
termination_by runs => runs.length

/-- A list in ascending order, ties in their given order. -/
def sort (before : α → α → m Bool) (xs : List α) : m (List α) := do
  let progress ← pushRuns before xs.length xs.length {} xs
  collapse before progress.patience progress.runs

/-- A list in descending order, ties in their given order. -/
def sortDescending (before : α → α → m Bool) (xs : List α) : m (List α) :=
  return (← sort before xs.reverse).reverse

/-- The first of the greatest elements. The test `after x y` says whether `x` comes strictly after
`y`. -/
def maximum? (after : α → α → m Bool) : List α → m (Option α)
  | [] => pure none
  | first :: rest => do
    let best ← rest.foldlM (fun best x => do return if ← after x best then x else best) first
    return some best

end Sorting

end VersionOrder
