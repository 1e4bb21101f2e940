import VersionOrder.Shell.Yaml.Arithmetic
import VersionOrder.Shell.Yaml.Tag
import VersionOrder.Shell.Yaml.Base64
import VersionOrder.Text.Case
import VersionOrder.Text.Cut

/-!
# Values of scalars

The value of a scalar with a tag. A tag that the scalar got by its form nearly always fits; a tag
that is written out may not, and then the scalar has no value.

## Main definitions

- `Yaml.integerOf`, `Yaml.realOf`: numbers
- `Yaml.atomOf`: the value of a scalar
-/

namespace VersionOrder

namespace Yaml

/-- A text without underscores. -/
def withoutGaps (s : Text) : Text :=
  s.filter (· ≠ '_')

/-- The number that a text writes in a base. -/
def numberOf (base : Nat) (s : Text) : Except ReadFault Int :=
  (Numeral.parse base s).mapError .notNumber

/-- A number in base sixty, of which the last digit counts one. -/
def sixties (digits : List Int) : Int :=
  digits.foldl (fun n digit => 60 * n + digit) 0

/-- The whole number that a text without sign writes; it starts with the mark of its base, with a
zero for base eight, or has colons for base sixty. -/
def magnitudeOf (s : Text) : Except ReadFault Int :=
  match s with
  | [] => .error .emptyNumber
  | ['0'] => .ok 0
  | '0' :: 'b' :: digits => numberOf 2 digits
  | '0' :: 'x' :: digits => numberOf 16 digits
  | '0' :: _ => numberOf 8 s
  | _ =>
    if s.contains ':' then do
      return sixties (← (Text.splitAt ':' s).mapM (numberOf 10))
    else
      numberOf 10 s

/-- The whole number that a text writes. -/
def integerOf (s : Text) : Except ReadFault Int := do
  let digits := withoutGaps s
  if digits.isEmpty then .error .emptyNumber
  else
    let (negative, body) := Numeral.splitSign digits
    let n ← magnitudeOf body
    return if negative then -n else n

/-- The floating-point number that a text writes. -/
def plainReal (s : Text) : Except ReadFault Binary64 :=
  match Binary64.readLoose? s with
  | some x => .ok x
  | none => .error (.notReal (String.ofList s))

/-- The sum of some numbers, each of which counts sixty times as much as the one before it, after
the sum so far. -/
def addSixties (sum : Binary64) (unit : Nat) : List Binary64 → Except ReadFault Binary64
  | [] => .ok sum
  | digit :: rest =>
    match digit.mulNat? unit with
    | some product => addSixties (sum.add product) (unit * 60) rest
    | none => .error .integerTooLarge

/-- The floating-point number that a text in lower case without sign writes. -/
def magnitudeOfReal (s : Text) : Except ReadFault Binary64 :=
  if s = ".inf".toList then .ok (.infinity false)
  else if s = ".nan".toList then .ok .nan
  else if s.contains ':' then do
    let digits ← (Text.splitAt ':' s).mapM plainReal
    addSixties (.finite false 0 Binary64.minExponent) 1 digits.reverse
  else
    plainReal s

/-- The floating-point number that a text writes. -/
def realOf (s : Text) : Except ReadFault Binary64 := do
  let digits := Text.lower (withoutGaps s)
  if digits.isEmpty then .error .emptyNumber
  else
    let (negative, body) := Numeral.splitSign digits
    let x ← magnitudeOfReal body
    return if negative then x.neg else x

/-- The truth value that a word stands for. -/
def truthOf (s : Text) : Except ReadFault Bool :=
  let word := String.ofList (Text.lower s)
  match Tag.truthWords.lookup word with
  | some b => .ok b
  | none => .error (.unknownTruth word)

/-- The date or moment that a text writes, with no regard to a line feed at its end. -/
def momentOf (s : Text) : Except ReadFault Atom :=
  match Stamp.read? (Tag.withoutLineEnd s) with
  | some stamp => stamp.atom.mapError .noSuchMoment
  | none => .error .notMoment

/-- The bytes that an ASCII text writes. -/
def bytesOf (s : Text) : Except ReadFault (List UInt8) :=
  if s.all fun c => c.toNat < 0x80 then
    match Base64.decode? s with
    | some bytes => .ok bytes
    | none => .error .malformed
  else
    .error .malformed

/-- The value of a scalar with a tag for scalars. -/
def atomOf (tag : Tag) (s : Text) : Except ReadFault Atom :=
  match tag with
  | .null => .ok .null
  | .boolean => (truthOf s).map .boolean
  | .integer => (integerOf s).map .integer
  | .real => (realOf s).map .real
  | .binary => (bytesOf s).map .bytes
  | .moment => momentOf s
  | .text => .ok (.text (String.ofList s))
  | _ => .error .malformed

end Yaml

end VersionOrder
