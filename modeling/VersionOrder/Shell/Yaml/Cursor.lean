import VersionOrder.Shell.Yaml.Fault

/-!
# Places in a YAML text

A cursor is a place in a text: what is left of it, and the index, line and column reached. A line
ends with a line feed, a next-line character, or one of the two separators of Unicode; the first two
count as line feeds, and the separators stay as they are.

## Main definitions

- `Yaml.Cursor`: a place in a text
- `Yaml.Cursor.next`, `Yaml.Cursor.skipWhile`: places further on
- `Yaml.Cursor.lineBreak?`: the line break at a place
- `Yaml.Cursor.atMarker`: whether a line there opens or closes a document
-/

namespace VersionOrder

namespace Yaml

/-- Whether a character ends a line. -/
def isBreak (c : Char) : Bool :=
  c = '\n' || c = '\u0085' || c = '\u2028' || c = '\u2029'

/-- Whether a character is a blank within a line. -/
def isSpace (c : Char) : Bool :=
  c = ' ' || c = '\t'

/-- Whether a line ends before the next character, or the text does. -/
def endsLine (next? : Option Char) : Bool :=
  next?.all isBreak

/-- Whether a word ends before the next character: at a space, at the end of a line or of the
text. -/
def endsWord (next? : Option Char) : Bool :=
  next?.all fun c => c = ' ' || isBreak c

/-- Whether a mark ends before the next character: at a blank, at the end of a line or of the
text. -/
def endsMark (next? : Option Char) : Bool :=
  next?.all fun c => isSpace c || isBreak c

/-- A place in a text. -/
structure Cursor where
  /-- What is left of the text. -/
  rest : Text
  /-- How many characters lie before the place. -/
  index : Nat := 0
  /-- How many lines end before it. -/
  line : Nat := 0
  /-- How many characters lie before it in its line; byte order marks do not count. -/
  column : Nat := 0
  deriving DecidableEq, Repr

namespace Cursor

/-- The next character, if there is one. -/
def peek? (cursor : Cursor) : Option Char :=
  cursor.rest.head?

/-- The place after the next character. -/
def next (cursor : Cursor) : Cursor :=
  match cursor.rest with
  | [] => cursor
  | c :: rest =>
    if isBreak c then
      { rest, index := cursor.index + 1, line := cursor.line + 1, column := 0 }
    else
      let width := if c = '\uFEFF' then 0 else 1
      { cursor with rest, index := cursor.index + 1, column := cursor.column + width }

/-- The place `count` characters further on. -/
def advance (cursor : Cursor) : Nat → Cursor
  | 0 => cursor
  | count + 1 => cursor.next.advance count

/-- The characters from a place on that pass a test. -/
def takeWhile (cursor : Cursor) (test : Char → Bool) : Text :=
  cursor.rest.takeWhile test

/-- The place after the characters that pass a test. -/
def skipWhile (cursor : Cursor) (test : Char → Bool) : Cursor :=
  cursor.advance (cursor.takeWhile test).length

/-- The place after the spaces. -/
def skipSpaces (cursor : Cursor) : Cursor :=
  cursor.skipWhile (· = ' ')

/-- The place after the comment, if one starts there. -/
def skipComment (cursor : Cursor) : Cursor :=
  if cursor.peek? = some '#' then cursor.skipWhile fun c => !isBreak c else cursor

/-- The line break at a place, if there is one, and the place after it. -/
def lineBreak? (cursor : Cursor) : Option (Char × Cursor) :=
  match cursor.rest with
  | [] => none
  | c :: _ =>
    if c = '\n' || c = '\u0085' then some ('\n', cursor.next)
    else if isBreak c then some (c, cursor.next)
    else none

/-- The place after the line, which may hold only spaces and a comment. -/
def endLine? (cursor : Cursor) : Option Cursor :=
  let stop := cursor.skipSpaces.skipComment
  if endsLine stop.peek? then some stop.next else none

/-- Whether a line there opens a document. -/
def opensDocument (cursor : Cursor) : Bool :=
  cursor.column = 0 && "---".toList.isPrefixOf cursor.rest && endsMark (cursor.rest.drop 3).head?

/-- Whether a line there closes a document. -/
def closesDocument (cursor : Cursor) : Bool :=
  cursor.column = 0 && "...".toList.isPrefixOf cursor.rest && endsMark (cursor.rest.drop 3).head?

/-- Whether a line there opens or closes a document. -/
def atMarker (cursor : Cursor) : Bool :=
  cursor.opensDocument || cursor.closesDocument

end Cursor

/-- A text whose lines are folded into one: a single line feed becomes a space, and of several the
first is left out; a separator is kept. -/
def folded (first : Char) (breaks : Text) : Text :=
  if first ≠ '\n' then first :: breaks
  else if breaks.isEmpty then [' ']
  else breaks

end Yaml

end VersionOrder
