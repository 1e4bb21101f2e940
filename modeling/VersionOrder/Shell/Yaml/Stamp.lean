import VersionOrder.Shell.Yaml.Cursor
import VersionOrder.Document.Value
import VersionOrder.Shell.Moment

/-!
# Dates and moments in YAML

A stamp is a date, and a time of day with it if there is one. The fields of a time are written with
one or two digits; what they say is checked only when the moment is formed.

## Main definitions

- `Yaml.Stamp`: the fields of a date or moment
- `Yaml.Stamp.read?`: the fields that a text writes
- `Yaml.Stamp.atom`: the date or moment with these fields
-/

namespace VersionOrder

namespace Yaml

/-- The time of day of a stamp. -/
structure StampTime where
  hour : Nat
  minute : Nat
  second : Nat
  fraction : Text
  /-- The offset from universal time in seconds. -/
  offset? : Option Int
  deriving DecidableEq, Repr

/-- The fields of a date or moment. -/
structure Stamp where
  year : Nat
  month : Nat
  day : Nat
  time? : Option StampTime
  /-- Whether month and day have two digits each. -/
  fullDate : Bool
  deriving DecidableEq, Repr

namespace Stamp

/-- The digits at the start of a text, at least `least` and at most `greatest`, and the text after
them. -/
def readDigits? (least greatest : Nat) (s : Text) : Option (Text × Text) :=
  let digits := (s.take greatest).takeWhile Char.isDigit
  if digits.length < least then none else some (digits, s.drop digits.length)

/-- The text after one of some marks at its start. -/
def expect? (marks : List Char) : Text → Option Text
  | c :: rest => if marks.contains c then some rest else none
  | [] => none

/-- The text after what separates a date from a time. -/
def skipSeparator? (s : Text) : Option Text :=
  match s with
  | c :: rest =>
    if c = 'T' || c = 't' then some rest
    else if isSpace c then some (rest.dropWhile isSpace)
    else none
  | [] => none

/-- The offset that ends a stamp, after blanks; nothing has none. -/
def readOffset? (s : Text) : Option (Option Int) :=
  if s.isEmpty then some none
  else
    match s.dropWhile isSpace with
    | ['Z'] => some (some 0)
    | mark :: rest => do
      if mark = '+' || mark = '-' then
        let (hours, rest) ← readDigits? 1 2 rest
        let minutes ←
          if rest.isEmpty then some []
          else do
            let (minutes, rest) ← readDigits? 2 2 (← expect? [':'] rest)
            if rest.isEmpty then some minutes else none
        let seconds : Int := (Numeral.value hours * 60 + Numeral.value minutes) * 60
        return some (if mark = '-' then -seconds else seconds)
      else
        none
    | [] => none

/-- The time of day that ends a stamp. -/
def readTime? (s : Text) : Option StampTime := do
  let (hour, rest) ← readDigits? 1 2 s
  let (minute, rest) ← readDigits? 2 2 (← expect? [':'] rest)
  let (second, rest) ← readDigits? 2 2 (← expect? [':'] rest)
  let (fraction, rest) := match rest with
    | '.' :: more => (more.takeWhile Char.isDigit, more.dropWhile Char.isDigit)
    | rest => ([], rest)
  let offset? ← readOffset? rest
  return ⟨Numeral.value hour, Numeral.value minute, Numeral.value second, fraction, offset?⟩

/-- The fields that a text writes, if it writes a date or moment. -/
def read? (s : Text) : Option Stamp := do
  let (year, rest) ← readDigits? 4 4 s
  let (month, rest) ← readDigits? 1 2 (← expect? ['-'] rest)
  let (day, rest) ← readDigits? 1 2 (← expect? ['-'] rest)
  let time? ← if rest.isEmpty then some none else (readTime? (← skipSeparator? rest)).map some
  return ⟨Numeral.value year, Numeral.value month, Numeral.value day, time?,
    month.length = 2 && day.length = 2⟩

/-- The date or moment with the given fields, which has to exist. -/
def atom (stamp : Stamp) : Except MomentFault Atom :=
  let date := Date.make stamp.year stamp.month stamp.day
  match stamp.time? with
  | none => date.map .date
  | some time =>
    let clock := Clock.make time.hour time.minute time.second (Clock.microsOf time.fraction)
    (Moment.make date clock time.offset?).map .moment

end Stamp

end Yaml

end VersionOrder
