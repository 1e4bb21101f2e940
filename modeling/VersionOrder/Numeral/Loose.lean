import VersionOrder.Numeral
import VersionOrder.Text.Quoted

/-!
# Loosely written whole numbers

A whole number may have a sign, digits of any script, single underscores between its digits, blanks
around it, and the mark of its base in front.

## Main definitions

- `NumeralFault`: why a text writes no whole number
- `Numeral.unpad`: a numeral without the blanks around it, in ASCII digits
- `Numeral.parse`: the whole number that a text writes in a base
-/

namespace VersionOrder

/-- Why a text writes no whole number. -/
inductive NumeralFault where
  /-- It has too many decimal digits. -/
  | tooManyDigits (count : Nat)
  /-- It is no numeral of the base. -/
  | notNumeral (base : Nat) (word : String)
  deriving DecidableEq, Repr

/-- The wording of a fault. A long text is shown up to its first two hundred characters, the
opening quote among them. -/
def NumeralFault.message : NumeralFault → String
  | .tooManyDigits count =>
    s!"Exceeds the limit (4300 digits) for integer string conversion: value has {count} digits; " ++
      "use sys.set_int_max_str_digits() to increase the limit"
  | .notNumeral base word =>
    s!"invalid literal for int() with base {base}: " ++
      String.ofList ((Text.quote word.toList).take 200)

namespace Numeral

/-- The zeros of the decimal digits outside ASCII; each is followed by its other nine digits
(Unicode 14). -/
def digitZeros : List Nat :=
  [0x660, 0x6F0, 0x7C0, 0x966, 0x9E6, 0xA66, 0xAE6, 0xB66, 0xBE6, 0xC66, 0xCE6, 0xD66, 0xDE6,
   0xE50, 0xED0, 0xF20, 0x1040, 0x1090, 0x17E0, 0x1810, 0x1946, 0x19D0, 0x1A80, 0x1A90, 0x1B50,
   0x1BB0, 0x1C40, 0x1C50, 0xA620, 0xA8D0, 0xA900, 0xA9D0, 0xA9F0, 0xAA50, 0xABF0, 0xFF10, 0x104A0,
   0x10D30, 0x11066, 0x110F0, 0x11136, 0x111D0, 0x112F0, 0x11450, 0x114D0, 0x11650, 0x116C0,
   0x11730, 0x118E0, 0x11950, 0x11C50, 0x11D50, 0x11DA0, 0x16A60, 0x16AC0, 0x16B50, 0x1D7CE,
   0x1D7D8, 0x1D7E2, 0x1D7EC, 0x1D7F6, 0x1E140, 0x1E2F0, 0x1E950, 0x1FBF0]

/-- The ASCII digit with the value of a decimal digit of any script. -/
def asciiDigit? (c : Char) : Option Char :=
  if c.isDigit then some c
  else
    (digitZeros.find? fun start => start ≤ c.toNat && c.toNat < start + 10).map fun start =>
      Char.ofNat ('0'.toNat + (c.toNat - start))

/-- The blanks allowed around a loosely written number: the space, the controls from tab to
carriage return, and the blanks outside ASCII. -/
def isOuterBlank (c : Char) : Bool :=
  c = ' ' || ('\t' ≤ c && c ≤ '\r') || (0x80 ≤ c.toNat && Text.isBlank c)

/-- A numeral without the blanks around it, in ASCII digits. -/
def unpad (s : Text) : Text :=
  (((s.dropWhile isOuterBlank).reverse.dropWhile isOuterBlank).reverse).map fun c =>
    (asciiDigit? c).getD c

/-- A numeral without the mark of its base, which is two, eight or sixteen. One underscore may
follow the mark. -/
def dropMark (base : Nat) (s : Text) : Text :=
  match s with
  | '0' :: letter :: rest =>
    let marked :=
      match base with
      | 2 => letter = 'b' || letter = 'B'
      | 8 => letter = 'o' || letter = 'O'
      | 16 => letter = 'x' || letter = 'X'
      | _ => false
    match marked, rest with
    | true, '_' :: rest => rest
    | true, rest => rest
    | false, _ => s
  | _ => s

/-- The digits of a base at the start of a text and the text after them. Single underscores may part
the digits; `inGroup` says whether the last character was a digit. -/
def digitGroups? (base : Nat) (inGroup : Bool) : Text → Option (Text × Text)
  | [] => if inGroup then some ([], []) else none
  | c :: rest =>
    if c = '_' then
      if inGroup then digitGroups? base false rest else none
    else if (digitIn? base c).isSome then
      (digitGroups? base true rest).map fun (digits, tail) => (c :: digits, tail)
    else if inGroup then some ([], c :: rest)
    else none

/-- The whole number that a text writes in a base. Only decimal digits are limited in number. -/
def parse (base : Nat) (s : Text) : Except NumeralFault Int :=
  let (negative, unsigned) := splitSign (unpad s)
  match digitGroups? base false (dropMark base unsigned) with
  | none => .error (.notNumeral base (String.ofList s))
  | some (digits, tail) =>
    if base = 10 && digitLimit < digits.length then .error (.tooManyDigits digits.length)
    else if !tail.isEmpty then .error (.notNumeral base (String.ofList s))
    else
      let n : Int := valueIn base digits
      .ok (if negative then -n else n)

end Numeral

end VersionOrder
