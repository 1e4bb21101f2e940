import VersionOrder.Text.Blank
import VersionOrder.Text.Printable
import VersionOrder.Text.Surrogate

/-!
# Quoted texts

A text inside a message stands between quotes, with everything that would not print written as an
escape. The quotes are single ones, unless the text has a single quote and no double one.

## Main definitions

- `Text.quote`: the quoted form of a text
- `quoted`: the same for strings, as messages use it
-/

namespace VersionOrder

namespace Text

/-- The lower-case hexadecimal digits of a number, padded with zeros to a width. -/
def hexDigits (width n : Nat) : Text :=
  let digits := Nat.toDigits 16 n
  List.replicate (width - digits.length) '0' ++ digits

/-- One character inside quotes of the given kind. -/
def quoteChar (mark c : Char) : Text :=
  if c = mark || c = '\\' then ['\\', c]
  else if c = '\t' then ['\\', 't']
  else if c = '\n' then ['\\', 'n']
  else if c = '\r' then ['\\', 'r']
  else if isPrintable c then [c]
  else
    let code := (surrogate? c).getD c.toNat
    if code < 0x100 then '\\' :: 'x' :: hexDigits 2 code
    else if code < 0x10000 then '\\' :: 'u' :: hexDigits 4 code
    else '\\' :: 'U' :: hexDigits 8 code

/-- The quote that encloses a text. -/
def quoteMark (s : Text) : Char :=
  if s.contains '\'' && !s.contains '"' then '"' else '\''

/-- A text between quotes, escaped so that it prints on one line. -/
def quote (s : Text) : Text :=
  let mark := quoteMark s
  mark :: s.flatMap (quoteChar mark) ++ [mark]

end Text

/-- A string between quotes, escaped so that it prints on one line. -/
def quoted (s : String) : String :=
  String.ofList (Text.quote s.toList)

end VersionOrder
