import VersionOrder.Text.Blank

/-!
# Lines

A line ends with a line feed, a carriage return or both; where a text is cut into lines, also with
one of the rarer separators.

## Main definitions

- `Text.unifyLineEnds`: every line ends with a line feed alone
- `Text.dropReturns`: no carriage return before a line feed
- `Text.lines`: the lines of a text
-/

namespace VersionOrder

namespace Text

/-- A text in which every line ends with a line feed alone. -/
def unifyLineEnds : Text → Text
  | [] => []
  | '\r' :: '\n' :: rest => '\n' :: unifyLineEnds rest
  | '\r' :: rest => '\n' :: unifyLineEnds rest
  | c :: rest => c :: unifyLineEnds rest

/-- A text without the carriage returns that stand before a line feed. -/
def dropReturns : Text → Text
  | [] => []
  | '\r' :: '\n' :: rest => '\n' :: dropReturns rest
  | c :: rest => c :: dropReturns rest

/-- Whether a character ends a line: line feed, carriage return, vertical tab, form feed, the
separators of files, groups and records, the next-line control, and the separators of lines and
paragraphs. -/
def endsLine (c : Char) : Bool :=
  let n := c.toNat
  (0x0a ≤ n && n ≤ 0x0d) || (0x1c ≤ n && n ≤ 0x1e) || n = 0x85 || n = 0x2028 || n = 0x2029

/-- The lines of a text, without what ends them. -/
def lines : Text → List Text
  | [] => []
  | '\r' :: '\n' :: rest => [] :: lines rest
  | c :: rest =>
    if endsLine c then
      [] :: lines rest
    else
      match lines rest with
      | [] => [[c]]
      | line :: more => (c :: line) :: more

end Text

end VersionOrder
