import VersionOrder.Shell.Yaml.Cursor
import VersionOrder.Text.Utf8

/-!
# Names, tags and directives

What stands before the content of a node: the name of an anchor, and a tag. A tag is written with a
handle, which stands for the start of the tag, or in full. Directives before a document tell its
version and declare handles.

## Main definitions

- `Yaml.readName`: the name of an anchor or alias
- `Yaml.TagText`, `Yaml.readTag`: a tag as it is written
- `Yaml.Directive`, `Yaml.readDirective`: a directive
-/

namespace VersionOrder

namespace Yaml

/-- Whether a character may stand in the name of an anchor, a handle or a directive. -/
def isNameChar (c : Char) : Bool :=
  c.isAlphanum || c = '-' || c = '_'

/-- The name of an anchor or alias behind its mark, and the place after it. -/
def readName (cursor : Cursor) : Except ReadFault (String × Cursor) :=
  let name := cursor.next.takeWhile isNameChar
  let stop := cursor.next.advance name.length
  let ends := endsMark stop.peek? || stop.peek?.any "?:,]\x7d%@\u0060".toList.contains
  if name.isEmpty || !ends then .error .malformed else .ok (String.ofList name, stop)

/-- Whether a character may stand in a tag. -/
def isTagChar (c : Char) : Bool :=
  c.isAlphanum || "-;/?:@&=+$,_.!~*'()[]".toList.contains c

/-- The bytes that escapes with a percent sign stand for, and the place after them. -/
def readPercents (fuel : Nat) (cursor : Cursor) : Except ReadFault (List UInt8 × Cursor) :=
  match fuel, cursor.rest with
  | fuel + 1, '%' :: high :: low :: _ =>
    match Numeral.hexNumber? [high, low] with
    | none => .error .malformed
    | some byte => do
      let (bytes, stop) ← readPercents fuel (cursor.advance 3)
      return (UInt8.ofNat byte :: bytes, stop)
  | _, '%' :: _ => .error .malformed
  | _, _ => .ok ([], cursor)

/-- The characters of a tag from a cursor on, and the place after them. Each piece takes one unit of
`fuel`. -/
def readTagChars (fuel : Nat) (cursor : Cursor) : Except ReadFault (Text × Cursor) :=
  match fuel, cursor.peek? with
  | fuel + 1, some c =>
    if c = '%' then do
      let (bytes, next) ← readPercents (cursor.rest.length + 1) cursor
      let piece ← (Utf8.decode bytes).mapError fun _ => .malformed
      let (content, stop) ← readTagChars fuel next
      return (piece ++ content, stop)
    else if isTagChar c then do
      let (content, stop) ← readTagChars fuel cursor.next
      return (c :: content, stop)
    else
      .ok ([], cursor)
  | _, _ => .ok ([], cursor)

/-- The end of a tag, which is not empty, and the place after it. -/
def readSuffix (cursor : Cursor) : Except ReadFault (String × Cursor) := do
  let (content, stop) ← readTagChars (cursor.rest.length + 1) cursor
  if stop.index = cursor.index then .error .malformed else return (String.ofList content, stop)

/-- The handle at a cursor, with its marks, and the place after it. -/
def readHandle (cursor : Cursor) : Except ReadFault (String × Cursor) :=
  if cursor.peek? ≠ some '!' then .error .malformed
  else if cursor.next.peek? = some ' ' then .ok ("!", cursor.next)
  else
    let name := cursor.next.takeWhile isNameChar
    let stop := cursor.next.advance name.length
    if stop.peek? = some '!' then .ok (String.ofList ('!' :: name ++ ['!']), stop.next)
    else .error .malformed

/-- A tag as it is written: with a handle, or in full. -/
structure TagText where
  handle? : Option String
  suffix : String
  deriving DecidableEq, Repr

/-- The tag at a cursor, and the place after it. -/
def readTag (cursor : Cursor) : Except ReadFault (TagText × Cursor) := do
  let after := cursor.next
  let (tag, stop) ←
    if after.peek? = some '<' then do
      let (suffix, stop) ← readSuffix after.next
      if stop.peek? = some '>' then pure (TagText.mk none suffix, stop.next)
      else .error .malformed
    else if endsMark after.peek? then
      pure (TagText.mk none "!", after)
    else do
      let word := after.takeWhile fun c => !endsWord (some c)
      let (handle, start) ← if word.contains '!' then readHandle cursor else pure ("!", after)
      let (suffix, stop) ← readSuffix start
      pure (TagText.mk (some handle) suffix, stop)
  if endsWord stop.peek? then return (tag, stop) else .error .malformed

/-- A directive before a document. -/
inductive Directive where
  /-- The version of the notation that the document is written in. -/
  | version (major : Nat)
  /-- What a handle stands for. -/
  | handle (name start : String)
  /-- Anything else, which means nothing. -/
  | unknown
  deriving DecidableEq, Repr

/-- The number at a cursor, and the place after it. -/
def readVersionNumber (cursor : Cursor) : Except ReadFault (Nat × Cursor) :=
  let digits := cursor.takeWhile Char.isDigit
  if digits.isEmpty then .error .malformed
  else
    match Numeral.read? digits with
    | some n => .ok (n, cursor.advance digits.length)
    | none => .error (.notNumber (.tooManyDigits digits.length))

/-- The version that a directive tells, behind its name, and the place after it. -/
def readVersion (cursor : Cursor) : Except ReadFault (Directive × Cursor) := do
  let (major, dot) ← readVersionNumber cursor.skipSpaces
  if dot.peek? ≠ some '.' then .error .malformed
  else
    let (_, stop) ← readVersionNumber dot.next
    if endsWord stop.peek? then return (.version major, stop) else .error .malformed

/-- The handle that a directive declares, behind its name, and the place after it. -/
def readDeclaration (cursor : Cursor) : Except ReadFault (Directive × Cursor) := do
  let (handle, space) ← readHandle cursor.skipSpaces
  if space.peek? ≠ some ' ' then .error .malformed
  else
    let (start, stop) ← readSuffix space.skipSpaces
    if endsWord stop.peek? then return (.handle handle start, stop) else .error .malformed

/-- The directive at a cursor, and the place after its line. -/
def readDirective (cursor : Cursor) : Except ReadFault (Directive × Cursor) := do
  let name := cursor.next.takeWhile isNameChar
  let after := cursor.next.advance name.length
  if name.isEmpty || !endsWord after.peek? then .error .malformed
  else
    let (directive, stop) ←
      if name = "YAML".toList then readVersion after
      else if name = "TAG".toList then readDeclaration after
      else pure (.unknown, after.skipWhile fun c => !isBreak c)
    match stop.endLine? with
    | some next => return (directive, next)
    | none => .error .malformed

end Yaml

end VersionOrder
