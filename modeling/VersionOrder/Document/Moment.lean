import VersionOrder.Numeral

/-!
# Dates, times and moments

A date is a day of the calendar, a clock is a time of day, and a moment is both together, with or
without an offset from universal time.

## Main definitions

- `Date`, `Clock`, `Moment`: dates, times and moments
- `Date.literal`, `Clock.literal`, `Moment.literal`: how a value is shown
- `Date.display`, `Clock.display`, `Moment.display`: how it is written out
- `Moment.same`: whether two moments are one
-/

namespace VersionOrder

/-- A number with at least `width` digits, filled up with zeros. -/
def padded (width n : Nat) : String :=
  let digits := Nat.toDigits 10 n
  String.ofList (List.replicate (width - digits.length) '0' ++ digits)

/-- A day of the calendar. -/
structure Date where
  year : Nat
  month : Nat
  day : Nat
  deriving DecidableEq, Repr

namespace Date

/-- Whether a year has a leap day. -/
def isLeap (year : Nat) : Bool :=
  year % 4 = 0 && (year % 100 ≠ 0 || year % 400 = 0)

/-- The number of days of a month. -/
def monthLength (year month : Nat) : Nat :=
  if month = 2 then if isLeap year then 29 else 28
  else if month = 4 || month = 6 || month = 9 || month = 11 then 30
  else 31

/-- The number of days before a date, counted from the first day of the year one. -/
def dayNumber (date : Date) : Nat :=
  let years := date.year - 1
  let months := (List.range (date.month - 1)).map fun i => monthLength date.year (i + 1)
  let days := 365 * years + years / 4 - years / 100 + years / 400
  months.foldl (fun sum length => sum + length) days + (date.day - 1)

/-- The parts of a date. -/
def parts (date : Date) : List Nat :=
  [date.year, date.month, date.day]

/-- A date as it is shown. -/
def literal (date : Date) : String :=
  s!"datetime.date({date.year}, {date.month}, {date.day})"

/-- A date written out. -/
def display (date : Date) : String :=
  padded 4 date.year ++ "-" ++ padded 2 date.month ++ "-" ++ padded 2 date.day

end Date

/-- A time of day. -/
structure Clock where
  hour : Nat
  minute : Nat
  second : Nat
  /-- Millionths of a second. -/
  micro : Nat
  deriving DecidableEq, Repr

namespace Clock

/-- The parts of a time; seconds and millionths are left out where they and all after them are
zero. -/
def parts (clock : Clock) : List Nat :=
  if clock.micro ≠ 0 then [clock.hour, clock.minute, clock.second, clock.micro]
  else if clock.second ≠ 0 then [clock.hour, clock.minute, clock.second]
  else [clock.hour, clock.minute]

/-- Some parts, with commas between them. -/
def listed (parts : List Nat) : String :=
  ", ".intercalate (parts.map fun n => s!"{n}")

/-- A time as it is shown. -/
def literal (clock : Clock) : String :=
  s!"datetime.time({listed clock.parts})"

/-- A time written out. -/
def display (clock : Clock) : String :=
  let fraction := if clock.micro = 0 then "" else "." ++ padded 6 clock.micro
  padded 2 clock.hour ++ ":" ++ padded 2 clock.minute ++ ":" ++ padded 2 clock.second ++ fraction

end Clock

/-- A date with a time of day, and an offset from universal time in seconds if there is one. -/
structure Moment where
  date : Date
  clock : Clock
  offset? : Option Int
  deriving DecidableEq, Repr

namespace Moment

/-- A length of time in writing: whole days, then the seconds that are left. -/
def durationLiteral (seconds : Int) : String :=
  let days := seconds / 86400
  let rest := seconds % 86400
  let parts :=
    (if days = 0 then [] else [s!"days={days}"]) ++ (if rest = 0 then [] else [s!"seconds={rest}"])
  let shown := if parts.isEmpty then "0" else ", ".intercalate parts
  s!"datetime.timedelta({shown})"

/-- An offset as it is shown. -/
def offsetLiteral (seconds : Int) : String :=
  if seconds = 0 then "datetime.timezone.utc"
  else s!"datetime.timezone({durationLiteral seconds})"

/-- A moment as it is shown. -/
def literal (moment : Moment) : String :=
  let parts := Clock.listed (moment.date.parts ++ moment.clock.parts)
  match moment.offset? with
  | none => s!"datetime.datetime({parts})"
  | some seconds => s!"datetime.datetime({parts}, tzinfo={offsetLiteral seconds})"

/-- How deep a moment is nested as it is shown: its offset lies inside it, and inside the offset its
length, unless that is zero. -/
def depth (moment : Moment) : Nat :=
  match moment.offset? with
  | none => 0
  | some seconds => if seconds = 0 then 1 else 2

/-- An offset written out, in hours and minutes. -/
def offsetDisplay (seconds : Int) : String :=
  let minutes := seconds.natAbs / 60
  (if seconds < 0 then "-" else "+") ++ padded 2 (minutes / 60) ++ ":" ++ padded 2 (minutes % 60)

/-- A moment written out. -/
def display (moment : Moment) : String :=
  moment.date.display ++ " " ++ moment.clock.display ++
    (moment.offset?.map offsetDisplay).getD ""

/-- The millionths of a second from the start of the year one up to a moment, by its own clock. -/
def localMicros (moment : Moment) : Int :=
  let clock := moment.clock
  (((moment.date.dayNumber * 24 + clock.hour) * 60 + clock.minute) * 60 + clock.second) * 1000000 +
    clock.micro

/-- Whether two moments are one: both have an offset or neither has, and they are at the same point
of time. -/
def same (left right : Moment) : Bool :=
  match left.offset?, right.offset? with
  | none, none => left = right
  | some a, some b => left.localMicros - a * 1000000 = right.localMicros - b * 1000000
  | _, _ => false

end Moment

end VersionOrder
