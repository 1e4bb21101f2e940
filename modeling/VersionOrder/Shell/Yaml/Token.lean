import VersionOrder.Shell.Yaml.Block
import VersionOrder.Shell.Yaml.Plain
import VersionOrder.Shell.Yaml.Property
import VersionOrder.Shell.Yaml.Quoted

/-!
# Tokens of YAML

A text falls into tokens, which mark where blocks and flow collections start and end, and hold names,
tags and the contents of scalars. Where a block starts and ends is told by indentation alone. What
stands before a colon becomes a key only when the colon is reached; until then its token, and all
after it, are held back.

## Main definitions

- `Yaml.Token`: the tokens
- `Yaml.Scan`: how far a text has been read
- `Yaml.Token.scan`: the tokens of a text, as far as it can be read
-/

namespace VersionOrder

namespace Yaml

/-- A token. -/
inductive Token where
  | directive (content : Directive)
  | documentStart
  | documentEnd
  | blockSequence
  | blockMapping
  | blockEnd
  | flowSequence
  | flowSequenceEnd
  | flowMapping
  | flowMappingEnd
  | flowEntry
  | blockEntry
  | key
  | value
  | reference (name : String)
  | anchor (name : String)
  | tag (content : TagText)
  | scalar (content : Text) (plain : Bool)
  | streamEnd
  deriving DecidableEq, Repr

/-- A place where a key may have started. -/
structure KeyStart where
  /-- How many flow collections are open there. -/
  level : Nat
  /-- The number of the token there. -/
  number : Nat
  /-- Whether there has to be a key: the place is where the entries of the block start. -/
  required : Bool
  /-- The place. -/
  index : Nat
  line : Nat
  column : Nat
  deriving DecidableEq, Repr

/-- How far a text has been read. -/
structure Scan where
  /-- The place reached. -/
  cursor : Cursor
  /-- The tokens read, the last one first. -/
  tokens : List Token := []
  /-- Whether the end of the text has been read. -/
  done : Bool := false
  /-- The column at which the entries of the innermost block start; there is none before the first
  block. -/
  indent? : Option Nat := none
  /-- The same for the blocks around it, innermost first. -/
  outer : List (Option Nat) := []
  /-- How many flow collections are open. -/
  level : Nat := 0
  /-- Whether a key may start at the place. -/
  allowKey : Bool := true
  /-- Where keys may have started: at most one place for each level, innermost first. -/
  keys : List KeyStart := []
  deriving DecidableEq, Repr

namespace Scan

/-- One more token, and the place after it. -/
def push (scan : Scan) (token : Token) (cursor : Cursor) : Scan :=
  { scan with tokens := token :: scan.tokens, cursor }

/-- One more token before the one with the given number. -/
def insertAt (scan : Scan) (number : Nat) (token : Token) : Scan :=
  let behind := scan.tokens.length - number
  { scan with tokens := scan.tokens.take behind ++ token :: scan.tokens.drop behind }

/-- The column from which further lines of the block are indented. -/
def contentColumn (scan : Scan) : Nat :=
  match scan.indent? with
  | some column => column + 1
  | none => 0

/-- Whether a place is too far behind for a key to have started there: a key lies in one line and
has no more than 1024 characters. -/
def isStale (scan : Scan) (start : KeyStart) : Bool :=
  start.line ≠ scan.cursor.line || start.index + 1024 < scan.cursor.index

/-- The places that are not too far behind; a required key may not be missed. -/
def dropStale (scan : Scan) : Except ReadFault Scan :=
  if scan.keys.any fun start => scan.isStale start && start.required then .error .malformed
  else .ok { scan with keys := scan.keys.filter fun start => !scan.isStale start }

/-- The place where a key of the innermost collection may have started, and the other places. -/
def keyHere? (scan : Scan) : Option (KeyStart × List KeyStart) :=
  match scan.keys with
  | start :: rest => if start.level = scan.level then some (start, rest) else none
  | [] => none

/-- No key has started in the innermost collection; a required one may not be missed. -/
def forgetKey (scan : Scan) : Except ReadFault Scan :=
  match scan.keyHere? with
  | some (start, rest) => if start.required then .error .malformed else .ok { scan with keys := rest }
  | none => .ok scan

/-- A key may start at the place reached, if one is allowed there. -/
def markKey (scan : Scan) : Except ReadFault Scan := do
  if scan.allowKey then
    let scan ← scan.forgetKey
    let start : KeyStart :=
      { level := scan.level
        number := scan.tokens.length
        required := scan.level = 0 && scan.indent? = some scan.cursor.column
        index := scan.cursor.index
        line := scan.cursor.line
        column := scan.cursor.column }
    return { scan with keys := start :: scan.keys }
  else
    return scan

/-- Ends the blocks whose entries start behind a column; inside flow collections, none ends. -/
def endBlocks (column? : Option Nat) (scan : Scan) : Scan :=
  if scan.level ≠ 0 then scan
  else
    let ended := (scan.indent? :: scan.outer).takeWhile fun indent? =>
      match indent?, column? with
      | some indent, some column => column < indent
      | some _, none => true
      | none, _ => false
    match (scan.indent? :: scan.outer).drop ended.length with
    | [] => scan
    | indent? :: outer =>
      { scan with
        indent?
        outer
        tokens := List.replicate ended.length .blockEnd ++ scan.tokens }

/-- Whether a block whose entries start at a column lies inside the innermost one. -/
def opensBlock (scan : Scan) (column : Nat) : Bool :=
  scan.indent?.all (· < column)

/-- The state inside a block whose entries start at a column. -/
def enterBlock (scan : Scan) (column : Nat) : Scan :=
  { scan with indent? := some column, outer := scan.indent? :: scan.outer }

/-- Passes over spaces, comments and line ends up to the next token. Behind a line end in a block, a
key may start. Each line takes one unit of `fuel`. -/
def skipGap (fuel : Nat) (scan : Scan) : Scan :=
  let stop := scan.cursor.skipSpaces.skipComment
  match fuel, stop.lineBreak? with
  | fuel + 1, some (_, next) =>
    skipGap fuel { scan with cursor := next, allowKey := scan.allowKey || scan.level = 0 }
  | _, _ => { scan with cursor := stop }

/-- Reads the end of the text. -/
def readEnd (scan : Scan) : Except ReadFault Scan := do
  let scan ← (scan.endBlocks none).forgetKey
  return { scan with tokens := .streamEnd :: scan.tokens, done := true, allowKey := false, keys := [] }

/-- Reads a directive. -/
def readDirectiveToken (scan : Scan) : Except ReadFault Scan := do
  let scan ← (scan.endBlocks none).forgetKey
  let (content, stop) ← readDirective scan.cursor
  return { scan.push (.directive content) stop with allowKey := false }

/-- Reads the mark of a document. -/
def readMarker (scan : Scan) (token : Token) : Except ReadFault Scan := do
  let scan ← (scan.endBlocks none).forgetKey
  return { scan.push token (scan.cursor.advance 3) with allowKey := false }

/-- Reads the mark that opens a flow collection. -/
def openFlow (scan : Scan) (token : Token) : Except ReadFault Scan := do
  let scan ← scan.markKey
  return { scan.push token scan.cursor.next with level := scan.level + 1, allowKey := true }

/-- Reads the mark that closes a flow collection. -/
def closeFlow (scan : Scan) (token : Token) : Except ReadFault Scan := do
  let scan ← scan.forgetKey
  if scan.level = 0 then .error .malformed
  else return { scan.push token scan.cursor.next with level := scan.level - 1, allowKey := false }

/-- Reads the comma between the items of a flow collection. -/
def readFlowEntry (scan : Scan) : Except ReadFault Scan := do
  let scan ← scan.forgetKey
  return { scan.push .flowEntry scan.cursor.next with allowKey := true }

/-- Opens a block with the given token if its entries start deeper than those of the innermost
block. -/
def startBlock (scan : Scan) (token : Token) : Scan :=
  let column := scan.cursor.column
  if scan.opensBlock column then (scan.enterBlock column).push token scan.cursor else scan

/-- Reads the dash before an item. -/
def readBlockEntry (scan : Scan) : Except ReadFault Scan := do
  if scan.level = 0 && !scan.allowKey then .error .malformed
  else
    let scan := if scan.level = 0 then scan.startBlock .blockSequence else scan
    let scan ← scan.forgetKey
    return { scan.push .blockEntry scan.cursor.next with allowKey := true }

/-- Reads the question mark before a key. -/
def readKey (scan : Scan) : Except ReadFault Scan := do
  if scan.level = 0 && !scan.allowKey then .error .malformed
  else
    let scan := if scan.level = 0 then scan.startBlock .blockMapping else scan
    let scan ← scan.forgetKey
    return { scan.push .key scan.cursor.next with allowKey := scan.level = 0 }

/-- Reads the colon before a value. If a key may have started in the collection, it has. -/
def readValue (scan : Scan) : Except ReadFault Scan := do
  match scan.keyHere? with
  | some (start, rest) =>
    let scan := { scan with keys := rest }.insertAt start.number .key
    let scan :=
      if scan.level = 0 && scan.opensBlock start.column then
        (scan.enterBlock start.column).insertAt start.number .blockMapping
      else
        scan
    return { scan.push .value scan.cursor.next with allowKey := false }
  | none =>
    if scan.level = 0 && !scan.allowKey then .error .malformed
    else
      let scan := if scan.level = 0 then scan.startBlock .blockMapping else scan
      return { scan.push .value scan.cursor.next with allowKey := scan.level = 0 }

/-- Reads a token that may be a key, or stand before one. -/
def readKeyPart (scan : Scan) (read : Cursor → Except ReadFault (Token × Cursor)) :
    Except ReadFault Scan := do
  let scan ← scan.markKey
  let (token, stop) ← read scan.cursor
  return { scan.push token stop with allowKey := false }

/-- Reads a block scalar. -/
def readBlockScalar (scan : Scan) (fold : Bool) : Except ReadFault Scan := do
  let scan ← scan.forgetKey
  let (content, stop) ← readBlock fold scan.contentColumn scan.cursor
  return { scan.push (.scalar content false) stop with allowKey := true }

/-- Reads a quoted scalar. -/
def readQuotedScalar (scan : Scan) (mark : Char) : Except ReadFault Scan :=
  scan.readKeyPart fun cursor => do
    let (content, stop) ← readQuoted mark cursor
    return (.scalar content false, stop)

/-- Reads a plain scalar. -/
def readPlainScalar (scan : Scan) : Except ReadFault Scan := do
  let scan ← scan.markKey
  let scalar := readPlain (scan.level ≠ 0) scan.contentColumn scan.cursor
  return { scan.push (.scalar scalar.text true) scalar.stop with allowKey := scalar.newLine }

/-- Reads the token at the place reached, by its first character. -/
def readToken (scan : Scan) : Except ReadFault Scan :=
  let cursor := scan.cursor
  let inFlow := scan.level ≠ 0
  let marks := endsMark cursor.next.peek?
  match cursor.peek? with
  | none => scan.readEnd
  | some c =>
    if c = '%' && cursor.column = 0 then scan.readDirectiveToken
    else if cursor.opensDocument then scan.readMarker .documentStart
    else if cursor.closesDocument then scan.readMarker .documentEnd
    else if c = '[' then scan.openFlow .flowSequence
    else if c = '\x7b' then scan.openFlow .flowMapping
    else if c = ']' then scan.closeFlow .flowSequenceEnd
    else if c = '\x7d' then scan.closeFlow .flowMappingEnd
    else if c = ',' then scan.readFlowEntry
    else if c = '-' && marks then scan.readBlockEntry
    else if c = '?' && (inFlow || marks) then scan.readKey
    else if c = ':' && (inFlow || marks) then scan.readValue
    else if c = '*' then
      scan.readKeyPart fun cursor => return (← readName cursor).map .reference id
    else if c = '&' then scan.readKeyPart fun cursor => return (← readName cursor).map .anchor id
    else if c = '!' then scan.readKeyPart fun cursor => return (← readTag cursor).map .tag id
    else if c = '|' && !inFlow then scan.readBlockScalar false
    else if c = '>' && !inFlow then scan.readBlockScalar true
    else if c = '\'' || c = '"' then scan.readQuotedScalar c
    else if startsPlain inFlow c cursor.next.peek? then scan.readPlainScalar
    else .error .malformed

/-- Reads the next token, and the ends of the blocks before it. -/
def step (scan : Scan) : Except ReadFault Scan := do
  let scan ← (scan.skipGap (scan.cursor.rest.length + 1)).dropStale
  (scan.endBlocks (some scan.cursor.column)).readToken

/-- The tokens that are not held back for a key that may have started. -/
def settled (scan : Scan) : List Token :=
  let waiting := (scan.keys.filter fun start => !scan.isStale start).map KeyStart.number
  scan.tokens.reverse.take (waiting.foldl min scan.tokens.length)

/-- Reads on to the end of the text, or up to the first fault; each token takes one unit of
`fuel`. The result are the settled tokens and the fault, if there is one. -/
def run (fuel : Nat) (scan : Scan) : List Token × Option ReadFault :=
  match fuel with
  | 0 => (scan.settled, some .malformed)
  | fuel + 1 =>
    if scan.done then (scan.tokens.reverse, none)
    else
      match scan.step with
      | .ok next => run fuel next
      | .error fault => (scan.settled, some fault)

end Scan

/-- The tokens of a text, and the fault that ends them if there is one. A byte order mark at the
start of the text does not belong to it. -/
def Token.scan (s : Text) : List Token × Option ReadFault :=
  let start : Cursor := { rest := s }
  let start := if s.head? = some '\uFEFF' then start.next else start
  Scan.run (s.length + 2) { cursor := start }

end Yaml

end VersionOrder
