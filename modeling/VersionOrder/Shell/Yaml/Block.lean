import VersionOrder.Shell.Yaml.Cursor

/-!
# Block scalars

A block scalar starts with a header, and its lines are indented. In the literal form the lines stay
as they are; in the folded form, lines that do not start with a blank are joined. The header may fix
the indentation and say what becomes of the line ends after the last line.

## Main definitions

- `Yaml.Chomping`: what becomes of the last line ends
- `Yaml.readBlock`: the content of a block scalar
-/

namespace VersionOrder

namespace Yaml

/-- What becomes of the line ends after the last line of a block scalar. -/
inductive Chomping where
  /-- The first one is kept. -/
  | clip
  /-- None is kept. -/
  | strip
  /-- All are kept. -/
  | keep
  deriving DecidableEq, Repr

/-- The chomping that a mark stands for. -/
def Chomping.ofMark? (next? : Option Char) : Option Chomping :=
  match next? with
  | some '+' => some .keep
  | some '-' => some .strip
  | _ => none

/-- The digit next to a cursor. -/
def digit? (next? : Option Char) : Option Nat :=
  (next?.filter Char.isDigit).map Numeral.digitValue

/-- The header of a block scalar: its chomping, its indentation if it is given, and the place
after both, which may stand in either order. -/
def readHeader (cursor : Cursor) : Chomping × Option Nat × Cursor :=
  match Chomping.ofMark? cursor.peek?, digit? cursor.peek? with
  | some chomping, _ =>
    match digit? cursor.next.peek? with
    | some width => (chomping, some width, cursor.next.next)
    | none => (chomping, none, cursor.next)
  | none, some width =>
    match Chomping.ofMark? cursor.next.peek? with
    | some chomping => (chomping, some width, cursor.next.next)
    | none => (.clip, some width, cursor.next)
  | none, none => (.clip, none, cursor)

/-- The place after the spaces before a column. -/
def skipIndent (column : Nat) (cursor : Cursor) : Cursor :=
  cursor.advance (min (column - cursor.column) (cursor.takeWhile (· = ' ')).length)

/-- The empty lines from a cursor on, as line breaks, and the place after them and the indentation
of the next line. Each line takes one unit of `fuel`. -/
def readIndentedBreaks (fuel column : Nat) (cursor : Cursor) : Text × Cursor :=
  let start := skipIndent column cursor
  match fuel, start.lineBreak? with
  | fuel + 1, some (mark, next) =>
    let (breaks, stop) := readIndentedBreaks fuel column next
    (mark :: breaks, stop)
  | _, _ => ([], start)

/-- The empty lines from a cursor on, as line breaks, the greatest column that spaces reach among
them, and the place after them and the spaces of the next line. -/
def readLeadingLines (fuel : Nat) (cursor : Cursor) : Text × Nat × Cursor :=
  let start := cursor.skipSpaces
  let reached := if cursor.peek? = some ' ' then start.column else 0
  match fuel, start.lineBreak? with
  | fuel + 1, some (mark, next) =>
    let (breaks, column, stop) := readLeadingLines fuel next
    (mark :: breaks, max reached column, stop)
  | _, _ => ([], reached, start)

/-- What joins two lines of a block scalar: the line end with which the first one ends, and the
empty lines between them. In the folded form, a single line feed between lines that do not start
with a blank becomes a space. -/
def joint (fold : Bool) (lineEnd : Char) (breaks : Text) (startsBlank nextBlank : Bool) : Text :=
  if fold && lineEnd = '\n' && !startsBlank && !nextBlank then
    if breaks.isEmpty then [' '] else breaks
  else
    lineEnd :: breaks

/-- The lines of a block scalar from a cursor on, and the place after them. Each line takes one unit
of `fuel`. -/
def readLines (fuel : Nat) (fold : Bool) (chomping : Chomping) (column : Nat) (cursor : Cursor) :
    Text × Cursor :=
  let line := cursor.takeWhile fun c => !isBreak c
  let lineStop := cursor.skipWhile fun c => !isBreak c
  let startsBlank (cursor : Cursor) : Bool := cursor.peek?.any isSpace
  match fuel, lineStop.lineBreak? with
  | fuel + 1, some (lineEnd, next) =>
    let (breaks, stop) := readIndentedBreaks (next.rest.length + 1) column next
    if stop.column = column && !stop.rest.isEmpty then
      let (content, last) := readLines fuel fold chomping column stop
      (line ++ joint fold lineEnd breaks (startsBlank cursor) (startsBlank stop) ++ content, last)
    else
      match chomping with
      | .strip => (line, stop)
      | .clip => (line ++ [lineEnd], stop)
      | .keep => (line ++ lineEnd :: breaks, stop)
  | _, _ => (line, lineStop)

/-- The content of the block scalar at a cursor, and the place after it. Its lines are indented by
at least `least`. -/
def readBlock (fold : Bool) (least : Nat) (cursor : Cursor) : Except ReadFault (Text × Cursor) :=
  let (chomping, width?, header) := readHeader cursor.next
  let least := max 1 least
  if width? = some 0 || !endsWord header.peek? then .error .malformed
  else
    match header.endLine? with
    | none => .error .malformed
    | some start =>
      let fuel := start.rest.length + 1
      let (breaks, column, first) := match width? with
        | some width =>
          let column := least + width - 1
          let (breaks, first) := readIndentedBreaks fuel column start
          (breaks, column, first)
        | none =>
          let (breaks, reached, first) := readLeadingLines fuel start
          (breaks, max least reached, first)
      if first.column = column && !first.rest.isEmpty then
        let (content, stop) := readLines fuel fold chomping column first
        .ok (breaks ++ content, stop)
      else
        .ok (if chomping = .keep then breaks else [], first)

end Yaml

end VersionOrder
