import VersionOrder.Document.Fault
import VersionOrder.Shell.Markup.Emoji
import VersionOrder.Shell.Markup.Style

/-!
# Marked-up texts

A text may hold tags in square brackets, which start and end styles, and names of emoji. A tag is
escaped by a backslash before it; backslashes before a tag are written twice.

## Main definitions

- `Markup.escape`: a text that shows as it is
- `Markup.render`: what a marked-up text shows
-/

namespace VersionOrder

/-- Why a marked-up text cannot be shown. -/
inductive MarkupFault where
  /-- A tag ends a style that has not started. -/
  | unmatchedClose (tag : String) (position : Nat)
  /-- A tag ends a style where none has started. -/
  | nothingToClose (position : Nat)
  /-- A part of a colour is not written. -/
  | colour (fault : NumeralFault)
  deriving DecidableEq, Repr

/-- The wording of a fault. -/
def MarkupFault.message : MarkupFault → String
  | .unmatchedClose tag position =>
    s!"closing tag '[{tag}]' at position {position} doesn't match any open tag"
  | .nothingToClose position => s!"closing tag '[/]' at position {position} has nothing to close"
  | .colour fault => fault.message

/-- A fault as it is raised. -/
def MarkupFault.raised : MarkupFault → ForeignFault
  | .colour fault => ⟨"ValueError", fault.message⟩
  | fault => ⟨"MarkupError", fault.message⟩

namespace Markup

/-- A tag with the backslashes before it. -/
structure Tag where
  /-- How many backslashes stand before the tag. -/
  slashes : Nat
  /-- What stands between the brackets. -/
  content : Text
  deriving DecidableEq, Repr

/-- The tag as it is written, without the backslashes. -/
def Tag.written (tag : Tag) : Text :=
  '[' :: tag.content ++ [']']

/-- Whether a tag may start with a character. -/
def startsTag (c : Char) : Bool :=
  c.isLower || c = '#' || c = '/' || c = '@'

/-- The tag at the start of a text, and the text after it. -/
def tagHere? (s : Text) : Option (Tag × Text) :=
  let slashes := (s.takeWhile (· = '\\')).length
  match s.drop slashes with
  | '[' :: c :: rest =>
    let more := rest.takeWhile fun x => x ≠ ']' && x ≠ '['
    match rest.drop more.length with
    | ']' :: tail => if startsTag c then some (⟨slashes, c :: more⟩, tail) else none
    | _ => none
  | _ => none

/-- What stands before the first tag of a text, the tag, and the text after it. -/
def firstTag? : Text → Option (Text × Tag × Text)
  | [] => none
  | c :: rest =>
    match tagHere? (c :: rest) with
    | some (tag, tail) => some ([], tag, tail)
    | none => (firstTag? rest).map fun (before, found) => (c :: before, found)

/-- A text with its tags escaped. Each tag takes one unit of `fuel`. -/
def escapeTags (fuel : Nat) (s : Text) : Text :=
  match fuel, firstTag? s with
  | fuel + 1, some (before, tag, tail) =>
    before ++ List.replicate (2 * tag.slashes + 1) '\\' ++ tag.written ++ escapeTags fuel tail
  | _, _ => s

/-- A text that shows as it is. A single backslash at the end is written twice. -/
def escape (s : Text) : Text :=
  let escaped := escapeTags s.length s
  match escaped.reverse with
  | ['\\'] => escaped ++ ['\\']
  | '\\' :: c :: _ => if c = '\\' then escaped else escaped ++ ['\\']
  | _ => escaped

/-- A piece of a marked-up text. -/
inductive Piece where
  /-- Text that is shown. -/
  | plain (s : Text)
  /-- A tag, with its position. -/
  | tag (content : Text) (position : Nat)
  deriving DecidableEq, Repr

/-- The pieces of a text, which starts at a position. Each tag takes one unit of `fuel`. -/
def pieces (fuel position : Nat) (s : Text) : List Piece :=
  match fuel, firstTag? s with
  | fuel + 1, some (before, tag, tail) =>
    let start := position + before.length
    let pairs := tag.slashes / 2
    let shown := if tag.slashes % 2 = 1 then .plain tag.written
      else .tag tag.content (start + 2 * pairs)
    .plain before :: .plain (List.replicate pairs '\\') :: shown ::
      pieces fuel (start + tag.slashes + tag.written.length) tail
  | _, _ => [.plain s]

/-- A text whose escaped brackets stand for themselves. -/
def unescape : Text → Text
  | '\\' :: '[' :: rest => '[' :: unescape rest
  | c :: rest => c :: unescape rest
  | [] => []

/-- Whether a character has no place in what is shown: the bell, the backspace, the vertical tab,
the form feed and the carriage return. -/
def isHidden (c : Char) : Bool :=
  let n := c.toNat
  n = 7 || n = 8 || n = 11 || n = 12 || n = 13

/-- The normal name of a style as part of a tag. -/
def styleName (s : Text) : Except MarkupFault Text :=
  (normalName s).mapError .colour

/-- The names of the styles that have started, innermost first, after a tag. -/
def applyTag (started : List Text) (content : Text) (position : Nat) :
    Except MarkupFault (List Text) :=
  let name := content.takeWhile (· ≠ '=')
  match name with
  | '/' :: closed =>
    if Text.allBlank closed then
      match started with
      | [] => .error (.nothingToClose position)
      | _ :: rest => .ok rest
    else do
      let style ← styleName (Text.trim closed)
      if started.contains style then return started.erase style
      else .error (.unmatchedClose (String.ofList content) position)
  | name => do return (← styleName name) :: started

/-- The characters that some pieces show. -/
def renderPieces (started : List Text) : List Piece → Except MarkupFault Text
  | [] => .ok []
  | .plain s :: rest => do return Emoji.replace (unescape s) ++ (← renderPieces started rest)
  | .tag content position :: rest => do renderPieces (← applyTag started content position) rest

/-- What a marked-up text shows. -/
def render (s : Text) : Except MarkupFault Text := do
  let shown ← if s.contains '[' then renderPieces [] (pieces s.length 0 s) else .ok (Emoji.replace s)
  return shown.filter fun c => !isHidden c

end Markup

end VersionOrder
