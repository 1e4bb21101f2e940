import VersionOrder.Document.Value
import VersionOrder.Text.Surrogate

/-!
# JSON documents

Reading of JSON texts, with the words for infinities and for no number admitted as numbers. A
number without point and power of ten is whole.

## Main definitions

- `Json.read`: the value of a JSON text
-/

namespace VersionOrder

namespace Json

/-- The blanks between the tokens of a JSON text. -/
def isGap (c : Char) : Bool :=
  c = ' ' || c = '\t' || c = '\n' || c = '\r'

/-- A text without the blanks it starts with. -/
def skipGap (s : Text) : Text :=
  s.dropWhile isGap

/-- The character behind a single-letter escape. -/
def escaped? (c : Char) : Option Char :=
  match c with
  | '"' => some '"'
  | '\\' => some '\\'
  | '/' => some '/'
  | 'b' => some '\x08'
  | 'f' => some '\x0c'
  | 'n' => some '\n'
  | 'r' => some '\r'
  | 't' => some '\t'
  | _ => none

/-- The code units of a string up to its closing quote, and the text after it. -/
def readUnits : Text → Option (List Nat × Text)
  | [] => none
  | '"' :: rest => some ([], rest)
  | '\\' :: 'u' :: a :: b :: c :: d :: rest => do
    let unit ← Numeral.hexNumber? [a, b, c, d]
    let (units, tail) ← readUnits rest
    return (unit :: units, tail)
  | '\\' :: c :: rest => do
    let char ← escaped? c
    let (units, tail) ← readUnits rest
    return (char.toNat :: units, tail)
  | c :: rest =>
    if c = '\\' || c.toNat < 0x20 then none
    else do
      let (units, tail) ← readUnits rest
      return (c.toNat :: units, tail)

/-- The text of some code units; two that form a surrogate pair are one character. -/
def ofUnits : List Nat → Text
  | [] => []
  | [unit] => [Text.charAt unit]
  | high :: low :: rest =>
    if 0xD800 ≤ high && high < 0xDC00 && 0xDC00 ≤ low && low < 0xE000 then
      Char.ofNat (0x10000 + (high - 0xD800) * 0x400 + (low - 0xDC00)) :: ofUnits rest
    else
      Text.charAt high :: ofUnits (low :: rest)

/-- The string whose opening quote has been read, and the text after it. -/
def readString (s : Text) : Except ReadFault (String × Text) :=
  match readUnits s with
  | some (units, tail) => .ok (String.ofList (ofUnits units), tail)
  | none => .error .malformed

/-- A whole number, if it does not have too many digits. -/
def wholeNumber (negative : Bool) (digits : Text) : Except ReadFault Value :=
  match Numeral.read? digits with
  | some n => .ok (.integer (if negative then -(n : Int) else n))
  | none => .error (.notNumber (.tooManyDigits digits.length))

/-- The digits after a decimal point, if there are any, and the text after them. -/
def readFraction (s : Text) : Text × Text :=
  match s with
  | '.' :: rest =>
    let digits := rest.takeWhile Char.isDigit
    if digits.isEmpty then ([], s) else (digits, rest.dropWhile Char.isDigit)
  | _ => ([], s)

/-- The power of ten at the end of a number, if there is one, and the text after it. -/
def readPower (s : Text) : Option Int × Text :=
  match s with
  | mark :: rest =>
    if mark = 'e' || mark = 'E' then
      let (negative, unsigned) := match rest with
        | '-' :: more => (true, more)
        | '+' :: more => (false, more)
        | more => (false, more)
      let digits := unsigned.takeWhile Char.isDigit
      if digits.isEmpty then (none, s)
      else
        let n : Int := Numeral.value digits
        (some (if negative then -n else n), unsigned.dropWhile Char.isDigit)
    else
      (none, s)
  | [] => (none, s)

/-- The number at the start of a text, without its sign, and the text after it. -/
def readNumber (negative : Bool) (s : Text) : Except ReadFault (Value × Text) := do
  let (whole, afterWhole) := match s with
    | '0' :: rest => (['0'], rest)
    | rest => (rest.takeWhile Char.isDigit, rest.dropWhile Char.isDigit)
  if whole.isEmpty then .error .malformed
  else
    let (fraction, afterFraction) := readFraction afterWhole
    let (power?, tail) := readPower afterFraction
    if fraction.isEmpty && power?.isNone then
      return (← wholeNumber negative whole, tail)
    else
      return (.real (Binary64.ofParts negative whole fraction (power?.getD 0)), tail)

/-- The words that stand for values. -/
def words : List (Text × Value) :=
  [("null".toList, .null), ("true".toList, .boolean true), ("false".toList, .boolean false),
    ("NaN".toList, .real .nan), ("Infinity".toList, .real (.infinity false)),
    ("-Infinity".toList, .real (.infinity true))]

mutual

/-- The value at the start of a text, and the text after it. Each step of the reading uses up one
unit of `fuel`; `room` is how many more lists and mappings may be opened inside each other. -/
def readValue (fuel room : Nat) (s : Text) : Except ReadFault (Value × Text) :=
  match fuel with
  | 0 => .error .malformed
  | fuel + 1 =>
    match words.find? fun (word, _) => word.isPrefixOf s with
    | some (word, value) => .ok (value, s.drop word.length)
    | none =>
      match s with
      | '"' :: rest => do
        let (text, tail) ← readString rest
        return (.text text, tail)
      | '[' :: rest =>
        match room, skipGap rest with
        | 0, _ => .error (.tooDeep .list)
        | _ + 1, ']' :: tail => .ok (.list [], tail)
        | room + 1, items => do
          let (values, tail) ← readItems fuel room items
          return (.list values, tail)
      | '\x7b' :: rest =>
        match room, skipGap rest with
        | 0, _ => .error (.tooDeep .mapping)
        | _ + 1, '\x7d' :: tail => .ok (.mapping [], tail)
        | room + 1, entries => do
          let (pairs, tail) ← readEntries fuel room entries
          return (.object (Value.ofEntries pairs), tail)
      | '-' :: rest => readNumber true rest
      | rest => readNumber false rest

/-- The items of a list up to its closing bracket, and the text after it. -/
def readItems (fuel room : Nat) (s : Text) : Except ReadFault (List Value × Text) :=
  match fuel with
  | 0 => .error .malformed
  | fuel + 1 => do
    let (value, afterValue) ← readValue fuel room s
    match skipGap afterValue with
    | ']' :: tail => return ([value], tail)
    | ',' :: rest => do
      let (values, tail) ← readItems fuel room (skipGap rest)
      return (value :: values, tail)
    | _ => .error .malformed

/-- The entries of a mapping up to its closing brace, and the text after it. -/
def readEntries (fuel room : Nat) (s : Text) :
    Except ReadFault (List (String × Value) × Text) :=
  match fuel with
  | 0 => .error .malformed
  | fuel + 1 =>
    match s with
    | '"' :: rest => do
      let (key, afterKey) ← readString rest
      match skipGap afterKey with
      | ':' :: rest => do
        let (value, afterValue) ← readValue fuel room (skipGap rest)
        match skipGap afterValue with
        | '\x7d' :: tail => return ([(key, value)], tail)
        | ',' :: rest => do
          let (pairs, tail) ← readEntries fuel room (skipGap rest)
          return ((key, value) :: pairs, tail)
        | _ => .error .malformed
      | _ => .error .malformed
    | _ => .error .malformed

end

/-- The value of a JSON text, which holds nothing else; `room` is how many lists and mappings may
lie inside each other. -/
def read (room : Nat) (s : Text) : Except ReadFault Value := do
  let (value, tail) ← readValue (2 * s.length + 2) room (skipGap s)
  if (skipGap tail).isEmpty then return value else .error .malformed

end Json

end VersionOrder
