import VersionOrder.Document.Value
import VersionOrder.Shell.Moment

/-!
# Dates and times in TOML

A date has ten characters, a time at least eight, and a moment joins both by a letter or a space and
may end with an offset. Every field has a fixed number of digits, and a value in its range.

## Main definitions

- `Toml.readMoment?`: the date, time or moment at the start of a text
-/

namespace VersionOrder

namespace Toml

/-- The number of exactly `width` digits at the start of a text, which has to lie between two
bounds, and the text after it. -/
def readField? (width least greatest : Nat) (s : Text) : Option (Nat × Text) :=
  let digits := s.take width
  let n := Numeral.value digits
  if digits.length = width && digits.all Char.isDigit && least ≤ n && n ≤ greatest then
    some (n, s.drop width)
  else
    none

/-- The text after a mark at its start. -/
def expect? (mark : Char) : Text → Option Text
  | c :: rest => if c = mark then some rest else none
  | [] => none

/-- The year, month and day at the start of a text, and the text after them. -/
def readDate? (s : Text) : Option ((Nat × Nat × Nat) × Text) := do
  let (year, rest) ← readField? 4 0 9999 s
  let (month, rest) ← readField? 2 1 12 (← expect? '-' rest)
  let (day, rest) ← readField? 2 1 31 (← expect? '-' rest)
  return ((year, month, day), rest)

/-- The digits of a fraction at the start of a text, if there are any, and the text after them. -/
def readFractionDigits (s : Text) : Text × Text :=
  match s with
  | '.' :: rest =>
    let digits := rest.takeWhile Char.isDigit
    if digits.isEmpty then ([], s) else (digits, rest.dropWhile Char.isDigit)
  | _ => ([], s)

/-- The time of day at the start of a text, and the text after it. -/
def readClock? (s : Text) : Option (Clock × Text) := do
  let (hour, rest) ← readField? 2 0 23 s
  let (minute, rest) ← readField? 2 0 59 (← expect? ':' rest)
  let (second, rest) ← readField? 2 0 59 (← expect? ':' rest)
  let (digits, tail) := readFractionDigits rest
  return (⟨hour, minute, second, Clock.microsOf digits⟩, tail)

/-- The offset at the start of a text, in seconds, and the text after it. -/
def readOffset? (s : Text) : Option (Int × Text) :=
  match s with
  | [] => none
  | mark :: rest =>
    if mark = 'Z' || mark = 'z' then some (0, rest)
    else if mark = '+' || mark = '-' then do
      let (hours, rest) ← readField? 2 0 23 rest
      let (minutes, rest) ← readField? 2 0 59 (← expect? ':' rest)
      let seconds : Int := (hours * 60 + minutes) * 60
      return (if mark = '-' then -seconds else seconds, rest)
    else
      none

/-- The time of day behind a date, and the text after it. -/
def readClockAfterDate? (s : Text) : Option (Clock × Text) :=
  match s with
  | mark :: rest => if mark = 'T' || mark = 't' || mark = ' ' then readClock? rest else none
  | [] => none

/-- The date, time or moment at the start of a text, if there is one, and the text after it; a date
has to exist. -/
def readMoment? (s : Text) : Option (Except MomentFault Atom × Text) :=
  match readDate? s with
  | none => (readClock? s).map fun (clock, tail) => (.ok (.clock clock), tail)
  | some ((year, month, day), afterDate) =>
    let date := Date.make year month day
    match readClockAfterDate? afterDate with
    | none => some (date.map .date, afterDate)
    | some (clock, afterClock) =>
      let (offset?, tail) := match readOffset? afterClock with
        | some (offset, tail) => (some offset, tail)
        | none => (none, afterClock)
      some ((Moment.make date (.ok clock) offset?).map .moment, tail)

end Toml

end VersionOrder
