import VersionOrder.Numeral
import VersionOrder.Padded

/-!
# Binary floating-point numbers

The numbers of the 64-bit binary format, as exact values: a decimal numeral is rounded to the
nearest one, ties to even, and a number is written with the fewest digits that read back as it.
Everything is computed in exact integer arithmetic.

## Main definitions

- `Binary64`: the numbers of the format
- `Binary64.ofDecimal`: the number nearest to a decimal fraction
- `Binary64.shortest`: the digits and exponent of the shortest numeral that reads back
- `Binary64.display`: a number in writing
- `Binary64.compare?`, `Binary64.compareInt?`: exact comparison
-/

namespace VersionOrder

/-- A number of the 64-bit binary format. A finite number is a signed integer mantissa, smaller
than `2 ^ 53`, times a power of two from `-1074` up. -/
inductive Binary64 where
  /-- The result of an undefined operation. -/
  | nan
  /-- Past all finite numbers. -/
  | infinity (negative : Bool)
  /-- `mantissa * 2 ^ exponent`, with a sign. -/
  | finite (negative : Bool) (mantissa : Nat) (exponent : Int)
  deriving DecidableEq, Repr

namespace Binary64

/-- The least exponent. -/
def minExponent : Int := -1074

/-- The greatest exponent. -/
def maxExponent : Int := 971

/-- A quotient rounded to the nearest integer, a half to the even neighbour. -/
def roundDiv (numerator denominator : Nat) : Nat :=
  let quotient := numerator / denominator
  let rest := numerator % denominator
  if 2 * rest < denominator then quotient
  else if denominator < 2 * rest then quotient + 1
  else quotient + quotient % 2

/-- A fraction scaled by a power of two and rounded. -/
def roundScaled (numerator denominator : Nat) (exponent : Int) : Nat :=
  if 0 ≤ exponent then roundDiv numerator (denominator * Nat.pow 2 exponent.toNat)
  else roundDiv (numerator * Nat.pow 2 (-exponent).toNat) denominator

/-- The exponent at which a positive fraction has a mantissa of 53 bits, or the least exponent. -/
def exponentOf (numerator denominator : Nat) : Int :=
  let guess : Int := (numerator.log2 : Int) - (denominator.log2 : Int) - 53
  let fits (e : Int) : Bool :=
    if 0 ≤ e then numerator < denominator * Nat.pow 2 e.toNat * Nat.pow 2 53
    else numerator * Nat.pow 2 (-e).toNat < denominator * Nat.pow 2 53
  let exponent := if fits guess then guess else guess + 1
  max minExponent exponent

/-- The number nearest to a positive fraction. -/
def ofFraction (negative : Bool) (numerator denominator : Nat) : Binary64 :=
  let exponent := exponentOf numerator denominator
  let mantissa := roundScaled numerator denominator exponent
  let (mantissa, exponent) :=
    if mantissa = Nat.pow 2 53 then (Nat.pow 2 52, exponent + 1) else (mantissa, exponent)
  if maxExponent < exponent then .infinity negative else .finite negative mantissa exponent

/-- The number nearest to `digits * 10 ^ exponent`. Numbers far out of range are settled by their
size alone. -/
def ofDecimal (negative : Bool) (digits : Nat) (exponent : Int) : Binary64 :=
  let size : Int := ((Nat.toDigits 10 digits).length : Int) + exponent
  if digits = 0 then .finite negative 0 minExponent
  else if 400 < size then .infinity negative
  else if size < -400 then .finite negative 0 minExponent
  else if 0 ≤ exponent then ofFraction negative (digits * Nat.pow 10 exponent.toNat) 1
  else ofFraction negative digits (Nat.pow 10 (-exponent).toNat)

/-- Whether `digits * 10 ^ place` reads back as `mantissa * 2 ^ exponent`: it lies between the
midpoints to the neighbouring numbers, midpoints included if the mantissa is even. -/
def readsBack (mantissa : Nat) (exponent : Int) (digits : Nat) (place : Int) : Bool :=
  let e := exponent - 2
  let below := if mantissa = Nat.pow 2 52 && minExponent < exponent then 1 else 2
  let twos (n : Nat) : Nat := n * Nat.pow 2 e.toNat * Nat.pow 10 (-place).toNat
  let tens := digits * Nat.pow 10 place.toNat * Nat.pow 2 (-e).toNat
  let low := twos (4 * mantissa - below)
  let high := twos (4 * mantissa + 2)
  if mantissa % 2 = 0 then low ≤ tens && tens ≤ high else low < tens && tens < high

/-- The power of ten just above a positive number. -/
def decimalPoint (mantissa : Nat) (exponent : Int) : Int :=
  let numerator := mantissa * Nat.pow 2 exponent.toNat
  let denominator := Nat.pow 2 (-exponent).toNat
  if denominator ≤ numerator then
    (Nat.toDigits 10 (numerator / denominator)).length
  else
    let scale : Nat := 330
    ((Nat.toDigits 10 (numerator * Nat.pow 10 scale / denominator)).length : Int) - scale

/-- The numeral with the given number of digits that is nearest to a positive number, if it reads
back: its digits and the place of the last one. Of two that are equally near, the even one. -/
def candidate? (mantissa : Nat) (exponent point : Int) (count : Nat) : Option (Nat × Int) :=
  let place := point - count
  let numerator := mantissa * Nat.pow 2 exponent.toNat * Nat.pow 10 (-place).toNat
  let denominator := Nat.pow 2 (-exponent).toNat * Nat.pow 10 place.toNat
  let lower := numerator / denominator
  let rest := numerator % denominator
  let fitsLower := readsBack mantissa exponent lower place
  let fitsUpper := readsBack mantissa exponent (lower + 1) place
  let lowerNearer := 2 * rest < denominator || (2 * rest = denominator && lower % 2 = 0)
  if fitsLower && (lowerNearer || !fitsUpper) then some (lower, place)
  else if fitsUpper then some (lower + 1, place)
  else none

/-- The shortest numeral that reads back as a positive number: its digits, and the place of the
decimal point counted from the first of them. Seventeen digits always suffice. -/
def shortest (mantissa : Nat) (exponent : Int) : Text × Int :=
  let point := decimalPoint mantissa exponent
  let (digits, place) :=
    ((List.range 17).findSome? fun i => candidate? mantissa exponent point (i + 1)).getD (0, 0)
  let written := Nat.toDigits 10 digits
  ((written.reverse.dropWhile (· = '0')).reverse, place + written.length)

/-- The numeral with the given digits and decimal point. Numerals are positional, with at least one
digit after the point, from `0.0001` up to sixteen digits before the point; all others have an
exponent of at least two digits, with its sign. -/
def layOut (digits : Text) (point : Int) : Text :=
  if -4 < point ∧ point ≤ 16 then
    if point ≤ 0 then
      "0.".toList ++ List.replicate (-point).toNat '0' ++ digits
    else if (digits.length : Int) ≤ point then
      digits ++ List.replicate (point.toNat - digits.length) '0' ++ ".0".toList
    else
      digits.take point.toNat ++ '.' :: digits.drop point.toNat
  else
    let power := point - 1
    let sign := if power < 0 then '-' else '+'
    let powerDigits := Nat.toDigits 10 power.natAbs
    let mantissa := match digits with
      | [] => []
      | [d] => [d]
      | d :: more => d :: '.' :: more
    mantissa ++ 'e' :: sign :: (List.replicate (2 - powerDigits.length) '0' ++ powerDigits)

/-- A number in writing. -/
def display : Binary64 → String
  | .nan => "nan"
  | .infinity negative => if negative then "-inf" else "inf"
  | .finite negative mantissa exponent =>
    let sign := if negative then "-" else ""
    if mantissa = 0 then sign ++ "0.0"
    else
      let (digits, point) := shortest mantissa exponent
      sign ++ String.ofList (layOut digits point)

/-- The number that a numeral stands for, given by its digits before and after the point and its
power of ten. -/
def ofParts (negative : Bool) (whole fraction : Text) (power : Int) : Binary64 :=
  ofDecimal negative (Numeral.value (whole ++ fraction)) (power - fraction.length)

/-- The power of ten at the end of a numeral; a numeral without one has power zero. -/
def readPower? : Text → Option Int
  | [] => some 0
  | mark :: rest =>
    if mark = 'e' || mark = 'E' then
      let (negative, digits) := match rest with
        | '-' :: more => (true, more)
        | '+' :: more => (false, more)
        | more => (false, more)
      if !digits.isEmpty && digits.all Char.isDigit then
        let n : Int := Numeral.value digits
        some (if negative then -n else n)
      else
        none
    else
      none

/-- The number that a text writes: a decimal numeral, with or without point and power of ten, or
one of the words for infinity and for no number. -/
def read? (s : Text) : Option Binary64 :=
  let (negative, unsigned) := match s with
    | '-' :: rest => (true, rest)
    | '+' :: rest => (false, rest)
    | rest => (false, rest)
  let word := unsigned.map Char.toLower
  if word = "nan".toList then some .nan
  else if word = "inf".toList || word = "infinity".toList then some (.infinity negative)
  else
    let whole := unsigned.takeWhile Char.isDigit
    let afterWhole := unsigned.dropWhile Char.isDigit
    let (fraction, tail) := match afterWhole with
      | '.' :: rest => (rest.takeWhile Char.isDigit, rest.dropWhile Char.isDigit)
      | rest => ([], rest)
    if whole.isEmpty && fraction.isEmpty then none
    else (readPower? tail).map fun power => ofParts negative whole fraction power

/-- The exact value in units of `2 ^ minExponent`, for a number that has one. -/
def units? : Binary64 → Option Int
  | .finite negative mantissa exponent =>
    let size : Int := mantissa * Nat.pow 2 (exponent - minExponent).toNat
    some (if negative then -size else size)
  | _ => none

/-- The exact value of an integer in units of `2 ^ minExponent`. -/
def unitsOfInt (n : Int) : Int :=
  n * Nat.pow 2 (-minExponent).toNat

/-- The exact comparison of two numbers, if they have an order. -/
def compare? : Binary64 → Binary64 → Option Int
  | .nan, _ => none
  | _, .nan => none
  | .infinity p, .infinity q => some (signum (if p then 0 else 1) (if q then 0 else 1))
  | .infinity p, .finite _ _ _ => some (if p then -1 else 1)
  | .finite _ _ _, .infinity q => some (if q then 1 else -1)
  | .finite p m e, .finite q n f =>
    match units? (.finite p m e), units? (.finite q n f) with
    | some a, some b => some (signum a b)
    | _, _ => none

/-- The exact comparison of a number with an integer, if they have an order. -/
def compareInt? : Binary64 → Int → Option Int
  | .nan, _ => none
  | .infinity p, _ => some (if p then -1 else 1)
  | .finite p m e, n =>
    (units? (.finite p m e)).map fun a => signum a (unitsOfInt n)

end Binary64

end VersionOrder
