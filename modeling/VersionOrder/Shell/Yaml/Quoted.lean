import VersionOrder.Shell.Yaml.Cursor
import VersionOrder.Text.Surrogate

/-!
# Quoted scalars

A scalar between single quotes writes a quote twice and has no escapes; one between double quotes
has escapes. In both, lines are folded and the blanks around line ends are left out.

## Main definitions

- `Yaml.readQuoted`: the content of a quoted scalar
-/

namespace VersionOrder

namespace Yaml

/-- The lines that are empty from a cursor on, as line breaks, and the place where the next word
starts. A document may not end there. Each line takes one unit of `fuel`. -/
def readEmptyLines (fuel : Nat) (cursor : Cursor) : Except ReadFault (Text × Cursor) :=
  match fuel with
  | 0 => .error .malformed
  | fuel + 1 =>
    if cursor.atMarker then .error .malformed
    else
      let word := cursor.skipWhile isSpace
      match word.lineBreak? with
      | none => .ok ([], word)
      | some (mark, next) => do
        let (breaks, stop) ← readEmptyLines fuel next
        return (mark :: breaks, stop)

/-- The blanks between two words, folded if lines end among them, and the place after them. -/
def readGap (cursor : Cursor) : Except ReadFault (Text × Cursor) :=
  let word := cursor.skipWhile isSpace
  match word.lineBreak? with
  | some (first, next) => do
    let (breaks, stop) ← readEmptyLines (next.rest.length + 1) next
    return (folded first breaks, stop)
  | none => .ok (cursor.takeWhile isSpace, word)

/-- The character behind a single-letter escape. -/
def escaped? (c : Char) : Option Char :=
  match c with
  | '0' => some '\x00'
  | 'a' => some '\x07'
  | 'b' => some '\x08'
  | 't' => some '\t'
  | '\t' => some '\t'
  | 'n' => some '\n'
  | 'v' => some '\x0b'
  | 'f' => some '\x0c'
  | 'r' => some '\r'
  | 'e' => some '\x1b'
  | ' ' => some ' '
  | '"' => some '"'
  | '\\' => some '\\'
  | '/' => some '/'
  | 'N' => some '\u0085'
  | '_' => some '\u00a0'
  | 'L' => some '\u2028'
  | 'P' => some '\u2029'
  | _ => none

/-- How many hexadecimal digits follow an escape by code point. -/
def hexWidth? (c : Char) : Option Nat :=
  if c = 'x' then some 2 else if c = 'u' then some 4 else if c = 'U' then some 8 else none

/-- The character that stands for a code point. -/
def characterOf (code : Nat) : Except ReadFault Char :=
  if 0x110000 ≤ code then .error (.noSuchCharacter code) else .ok (Text.charAt code)

/-- What an escape stands for, the backslash being read, and the place after it. An escaped line end
stands for nothing. -/
def readEscape (cursor : Cursor) : Except ReadFault (Text × Cursor) :=
  match cursor.rest with
  | [] => .error .malformed
  | c :: rest =>
    match escaped? c, hexWidth? c with
    | some char, _ => .ok ([char], cursor.next)
    | none, some width =>
      let digits := rest.take width
      match Numeral.hexNumber? digits with
      | some code =>
        if digits.length < width then .error .malformed
        else do return ([← characterOf code], cursor.advance (width + 1))
      | none => .error .malformed
    | none, none =>
      if isBreak c then readEmptyLines (rest.length + 1) cursor.next else .error .malformed

/-- The content of a quoted scalar from a cursor on up to its closing quote, and the place after
it. Each piece takes one unit of `fuel`. -/
def readQuotedFrom (fuel : Nat) (mark : Char) (cursor : Cursor) :
    Except ReadFault (Text × Cursor) :=
  match fuel, cursor.rest with
  | 0, _ => .error .malformed
  | _, [] => .error .malformed
  | fuel + 1, c :: rest => do
    if c = mark then
      if mark = '\'' && rest.head? = some '\'' then
        let (content, stop) ← readQuotedFrom fuel mark cursor.next.next
        return ('\'' :: content, stop)
      else
        return ([], cursor.next)
    else
      let (piece, next) ←
        if isSpace c || isBreak c then readGap cursor
        else if mark = '"' && c = '\\' then readEscape cursor.next
        else .ok ([c], cursor.next)
      let (content, stop) ← readQuotedFrom fuel mark next
      return (piece ++ content, stop)

/-- The content of the quoted scalar at a cursor, and the place after it. -/
def readQuoted (mark : Char) (cursor : Cursor) : Except ReadFault (Text × Cursor) :=
  readQuotedFrom (cursor.rest.length + 1) mark cursor.next

end Yaml

end VersionOrder
