import VersionOrder.Shell.Yaml.Cursor

/-!
# Plain scalars

A scalar without quotes goes on over several lines, which are folded, as long as they are indented
deeply enough. It ends before a comment, before a colon that separates a key from its value, at a
tab, and inside flow collections at their marks.

## Main definitions

- `Yaml.startsPlain`: whether a plain scalar may start with a character
- `Yaml.readPlain`: the content of a plain scalar
-/

namespace VersionOrder

namespace Yaml

/-- The marks of flow collections. -/
def isFlowMark (c : Char) : Bool :=
  c = ',' || c = '[' || c = ']' || c = '\x7b' || c = '\x7d'

/-- Whether a plain scalar ends before a character that another one follows. -/
def endsPlain (inFlow : Bool) (c : Char) (after? : Option Char) : Bool :=
  isSpace c || isBreak c ||
    (c = ':' && (endsMark after? || (inFlow && after?.any isFlowMark))) ||
    (inFlow && (isFlowMark c || c = '?'))

/-- The word of a plain scalar at the start of a text. -/
def plainWord (inFlow : Bool) : Text → Text
  | [] => []
  | c :: rest => if endsPlain inFlow c rest.head? then [] else c :: plainWord inFlow rest

/-- Whether a plain scalar may start with a character that another one follows. -/
def startsPlain (inFlow : Bool) (c : Char) (after? : Option Char) : Bool :=
  if isSpace c || isBreak c then false
  else if c = '-' then !endsMark after?
  else if c = '?' || c = ':' then !inFlow && !endsMark after?
  else !isFlowMark c && !("#&*!|>'\"%@\u0060".toList.contains c)

/-- What stands between two words of a plain scalar. -/
structure PlainGap where
  /-- The spaces, folded if lines end among them; nothing if the document ends there. -/
  text : Text
  /-- Whether a line ends among them. -/
  newLine : Bool
  /-- The place after them. -/
  stop : Cursor

/-- The line breaks from the start of a line on, and the place where they and the spaces between
them end. A document may end there. Each space and line takes one unit of `fuel`. -/
def skipEmptyLines (fuel : Nat) (cursor : Cursor) : Text × Cursor :=
  match fuel with
  | 0 => ([], cursor)
  | fuel + 1 =>
    if cursor.atMarker then ([], cursor)
    else if cursor.peek? = some ' ' then skipEmptyLines fuel cursor.next
    else
      match cursor.lineBreak? with
      | none => ([], cursor)
      | some (mark, next) =>
        let (breaks, stop) := skipEmptyLines fuel next
        (mark :: breaks, stop)

/-- What stands between two words of a plain scalar, from a cursor on. -/
def plainGap (cursor : Cursor) : PlainGap :=
  let word := cursor.skipSpaces
  match word.lineBreak? with
  | none => ⟨cursor.takeWhile (· = ' '), false, word⟩
  | some (first, next) =>
    let (breaks, stop) := skipEmptyLines (next.rest.length + 1) next
    ⟨if stop.atMarker then [] else folded first breaks, true, stop⟩

/-- A scalar that has been read. -/
structure PlainScalar where
  /-- The content. -/
  text : Text
  /-- Whether a line ends after it. -/
  newLine : Bool
  /-- The place after it. -/
  stop : Cursor

/-- The words of a plain scalar from a cursor on, which a gap precedes. In a block, the words have
to stand at `column` or further on. Each word takes one unit of `fuel`. -/
def readWords (fuel : Nat) (inFlow : Bool) (column : Nat) (gap : PlainGap) : PlainScalar :=
  let cursor := gap.stop
  let word := plainWord inFlow cursor.rest
  match fuel with
  | 0 => ⟨[], gap.newLine, cursor⟩
  | fuel + 1 =>
    if cursor.peek? = some '#' || word.isEmpty then ⟨[], gap.newLine, cursor⟩
    else
      let next := plainGap (cursor.advance word.length)
      let content := gap.text ++ word
      if next.text.isEmpty || (!inFlow && next.stop.column < column) then
        ⟨content, next.newLine, next.stop⟩
      else
        let more := readWords fuel inFlow column next
        { more with text := content ++ more.text }

/-- The content of the plain scalar at a cursor, and the place after it. In a block, its further
lines have to be indented up to `column`. -/
def readPlain (inFlow : Bool) (column : Nat) (cursor : Cursor) : PlainScalar :=
  readWords (cursor.rest.length + 1) inFlow column ⟨[], false, cursor⟩

end Yaml

end VersionOrder
