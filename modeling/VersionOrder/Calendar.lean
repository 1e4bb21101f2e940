import VersionOrder.Build
import VersionOrder.Version

/-!
# Calendar parts

The year, month and patch of a calendar version are its first three numbers. A version whose
numbers are too large to be a date has no calendar parts at all.

## Main definitions

- `Calendar.parts`: the calendar parts of a version
- `Calendar.compareParts`: the comparison of two lists of parts, missing parts counting as zero
-/

namespace VersionOrder

namespace Calendar

/-- How many numbers a date has at most. -/
def maxParts : Nat := 3

/-- The largest number that a date may hold. -/
def partLimit : Nat := 0x7fffffffffffffff

/-- The digit runs of a version, left to right. -/
def digitRuns (v : Version) : List Text :=
  (v.tokens.filter Token.isAlphanumeric).flatMap fun t =>
    ((Text.runs Char.isDigit t.text).filter Prod.fst).map Prod.snd

/-- The numbers of some digit runs; one that is too large leaves no numbers, and one that cannot be
read is refused. -/
def readAll : List Text → Except Fault (Option (List Nat))
  | [] => .ok (some [])
  | run :: rest => do
    let n ← readNumber run
    if partLimit < n then
      return none
    else
      return (← readAll rest).map (n :: ·)

/-- The calendar parts of a version; none if it has no numbers or one of the first three is too
large. -/
def parts (v : Version) : Except Fault (List Nat) := do
  return (← readAll ((digitRuns v).take maxParts)).getD []

/-- The comparison of two lists of parts, missing parts counting as zero. -/
def compareParts (left right : List Nat) : Int :=
  decisive ((zipPadded 0 left right).map fun (m, n) => signum m n)

end Calendar

end VersionOrder
