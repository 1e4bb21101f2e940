import VersionOrder.Document.Moment

/-!
# Checked dates, times and moments

The readers of documents take dates and times from numbers, which may be out of range.

## Main definitions

- `MomentFault`: why a date, a time or an offset does not exist
- `Date.make`, `Clock.make`, `Moment.make`: checked dates, times and moments
-/

namespace VersionOrder

/-- Why a date, a time or an offset does not exist. -/
inductive MomentFault where
  | year (number : Nat)
  | month
  | day
  | hour
  | minute
  | second
  /-- The offset, in seconds, is a whole day or more. -/
  | offset (seconds : Int)
  deriving DecidableEq, Repr

/-- The wording of a fault. -/
def MomentFault.message : MomentFault → String
  | .year number => s!"year {number} is out of range"
  | .month => "month must be in 1..12"
  | .day => "day is out of range for month"
  | .hour => "hour must be in 0..23"
  | .minute => "minute must be in 0..59"
  | .second => "second must be in 0..59"
  | .offset seconds =>
    "offset must be a timedelta strictly between -timedelta(hours=24) and timedelta(hours=24), " ++
      s!"not {Moment.durationLiteral seconds}."

/-- The date with the given parts, if there is one. -/
def Date.make (year month day : Nat) : Except MomentFault Date :=
  if year < 1 || 9999 < year then .error (.year year)
  else if month < 1 || 12 < month then .error .month
  else if day < 1 || monthLength year month < day then .error .day
  else .ok ⟨year, month, day⟩

namespace Clock

/-- The time with the given parts, if there is one. -/
def make (hour minute second micro : Nat) : Except MomentFault Clock :=
  if 23 < hour then .error .hour
  else if 59 < minute then .error .minute
  else if 59 < second then .error .second
  else .ok ⟨hour, minute, second, micro⟩

/-- The millionths of a second that the digits of a fraction write; digits after the sixth do not
count. -/
def microsOf (digits : Text) : Nat :=
  Numeral.value (digits.take 6 ++ List.replicate (6 - digits.length) '0')

end Clock

namespace Moment

/-- An offset, which has to be shorter than a day. -/
def checkOffset (seconds : Int) : Except MomentFault Int :=
  if seconds.natAbs < 86400 then .ok seconds else .error (.offset seconds)

/-- The moment with the given date, time and offset. -/
def make (date : Except MomentFault Date) (clock : Except MomentFault Clock)
    (offset? : Option Int) : Except MomentFault Moment := do
  let offset? ← offset?.mapM checkOffset
  return ⟨← date, ← clock, offset?⟩

end Moment

end VersionOrder
