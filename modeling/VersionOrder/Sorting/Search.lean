/-!
# Searching a sorted list

Where the elements that pass a test all stand before those that do not, the passing ones are counted
with few tests: by halving the part still unknown, or, where few are expected to pass, by strides
that double.

## Main definitions

- `Sorting.bisect`: the count by halving
- `Sorting.leading`: the count by strides, then by halving
-/

namespace VersionOrder

namespace Sorting

variable {m : Type → Type} [Monad m] {α : Type}

/-- The place where a list of a positive length is halved. In the middle of an even length stand two
elements; `late` says whether the second of them is meant. -/
def halfway (late : Bool) (length : Nat) : Nat :=
  if late then length / 2 else (length - 1) / 2

/-- Halving leaves less than the whole. -/
theorem halfway_lt (late : Bool) {length : Nat} (h : 0 < length) :
    halfway late length < length := by
  unfold halfway
  split <;> omega

/-- How many elements pass the test, found by halving. -/
def bisect (late : Bool) (test : α → m Bool) (xs : List α) : m Nat :=
  match _h : xs.drop (halfway late xs.length) with
  | [] => pure 0
  | middle :: upper => do
    if ← test middle then
      return halfway late xs.length + 1 + (← bisect late test upper)
    else
      bisect late test (xs.take (halfway late xs.length))
termination_by xs.length
decreasing_by
  · have hlen := congrArg List.length _h
    simp only [List.length_drop, List.length_cons] at hlen
    omega
  · have hlen := congrArg List.length _h
    simp only [List.length_drop, List.length_cons] at hlen
    have hpos : 0 < xs.length := by omega
    have := halfway_lt late hpos
    simp only [List.length_take]
    omega

/-- How many elements pass the test if `passed` of them are known to, which stand before those given
here. A stride is as long as the way so far. -/
def stride (late : Bool) (test : α → m Bool) (passed : Nat) (xs : List α) : m Nat :=
  match _h : xs.drop (passed - 1) with
  | [] => return passed + (← bisect late test xs)
  | next :: further => do
    if ← test next then
      stride late test (2 * passed) further
    else
      return passed + (← bisect late test (xs.take (passed - 1)))
termination_by xs.length
decreasing_by
  have hlen := congrArg List.length _h
  simp only [List.length_drop, List.length_cons] at hlen
  omega

/-- How many elements pass the test, found by strides from the head of the list. -/
def leading (late : Bool) (test : α → m Bool) : List α → m Nat
  | [] => pure 0
  | first :: rest => do
    if ← test first then stride late test 1 rest else return 0

end Sorting

end VersionOrder
