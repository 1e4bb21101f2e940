import VersionOrder.Text.Blank

/-!
# Reading whole numbers

Runs of ASCII digits are read as decimal numbers of any size, but a run of more than `digitLimit`
digits, leading zeros included, is refused. Other bases have no limit.

## Main definitions

- `Numeral.value`: the number that a digit run writes
- `Numeral.read?`: the same, within the limit
- `Numeral.valueIn`: the number that digits of another base write
-/

namespace VersionOrder

namespace Numeral

/-- The longest digit run that is read as a number. -/
def digitLimit : Nat := 4300

/-- The value of an ASCII digit. -/
def digitValue (c : Char) : Nat :=
  c.toNat - '0'.toNat

/-- The number that a run of ASCII digits writes in base ten. -/
def value (digits : Text) : Nat :=
  digits.foldl (fun n c => 10 * n + digitValue c) 0

/-- The number that a digit run writes, unless the run exceeds the limit. -/
def read? (digits : Text) : Option Nat :=
  if digits.length ≤ digitLimit then some (value digits) else none

/-- A numeral without its sign, and whether the sign is a minus. -/
def splitSign : Text → Bool × Text
  | '-' :: rest => (true, rest)
  | '+' :: rest => (false, rest)
  | s => (false, s)

/-- The value of a digit among the ten digits and the letters, in either case, that follow them. -/
def digitValue? (c : Char) : Option Nat :=
  if c.isDigit then some (digitValue c)
  else if c.isLower then some (c.toNat - 'a'.toNat + 10)
  else if c.isUpper then some (c.toNat - 'A'.toNat + 10)
  else none

/-- The value of a digit in a base. -/
def digitIn? (base : Nat) (c : Char) : Option Nat :=
  (digitValue? c).filter (· < base)

/-- The number that digits of a base write; other characters count as zeros. -/
def valueIn (base : Nat) (digits : Text) : Nat :=
  digits.foldl (fun n c => base * n + (digitIn? base c).getD 0) 0

/-- The number that hexadecimal digits write. -/
def hexNumber? (digits : Text) : Option Nat :=
  if digits.all fun c => (digitIn? 16 c).isSome then some (valueIn 16 digits) else none

end Numeral

end VersionOrder
