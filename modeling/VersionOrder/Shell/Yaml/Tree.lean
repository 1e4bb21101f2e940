import VersionOrder.Shell.Yaml.Node
import VersionOrder.Shell.Yaml.Token

/-!
# From tokens to nodes

The tokens of a text make up a single document, which is a tree of nodes. A node may be named by an
anchor and stand again wherever that name is referred to, within itself as well.

## Main definitions

- `Yaml.Pending`: the tokens that are still to be read, and what has been declared
- `Yaml.readNode`: the node that comes next
- `Yaml.readDocument`: the document that some tokens make up
-/

namespace VersionOrder

namespace Yaml

/-- The tokens that are still to be read, and what has been declared before them. -/
structure Pending where
  tokens : List Token
  /-- What is wrong behind the last token. -/
  fault : ReadFault
  /-- What the handles of tags stand for. -/
  handles : List (String × String) := []
  /-- The nodes that have names, the last one first. -/
  anchors : List (String × Node) := []
  /-- Whether the document refers to the whole of itself. -/
  selfReferring : Bool := false

/-- Reading of tokens, which may fail. -/
abbrev Reads := StateT Pending (Except ReadFault)

/-- What breaks the rules of the notation. -/
def refuse {α : Type} : Reads α :=
  throw .malformed

/-- The next token. -/
def peekToken : Reads Token := do
  let pending ← get
  match pending.tokens with
  | token :: _ => return token
  | [] => throw pending.fault

/-- Passes over the next token. -/
def skipToken : Reads Unit :=
  modify fun pending => { pending with tokens := pending.tokens.drop 1 }

/-- Passes over the next token, which has to be the given one. -/
def expectToken (token : Token) : Reads Unit := do
  if (← peekToken) = token then skipToken else refuse

/-- Passes over the next token if it is the given one, and tells whether it was. -/
def skipIf (token : Token) : Reads Bool := do
  if (← peekToken) = token then do
    skipToken
    return true
  else
    return false

/-- What is said about the tag of a node. -/
inductive TagChoice where
  /-- Nothing. -/
  | absent
  /-- That its form alone counts. -/
  | byForm
  /-- The tag. -/
  | given (tag : Tag)
  deriving DecidableEq, Repr

namespace TagChoice

/-- The tag of a scalar. -/
def scalar (choice : TagChoice) (plain : Bool) (content : Text) : Tag :=
  match choice with
  | .absent => if plain then .ofPlain content else .text
  | .byForm => .ofPlain content
  | .given tag => tag

/-- The tag of a sequence or mapping, which has one of its own. -/
def collection (choice : TagChoice) (own : Tag) : Tag :=
  match choice with
  | .given tag => tag
  | _ => own

end TagChoice

/-- What is said about a node before its content. -/
structure Properties where
  anchor? : Option String := none
  tag : TagChoice := .absent
  deriving DecidableEq, Repr

/-- Whether anything is said about a node. -/
def Properties.isEmpty (properties : Properties) : Bool :=
  properties.anchor?.isNone && properties.tag = .absent

/-- Reads an anchor, if one comes next. -/
def readAnchor? : Reads (Option String) := do
  match ← peekToken with
  | .anchor name =>
    skipToken
    return some name
  | _ => return none

/-- Reads a tag, if one comes next. -/
def readTag? : Reads (Option TagText) := do
  match ← peekToken with
  | .tag content =>
    skipToken
    return some content
  | _ => return none

/-- The tag that is written, whose handle has to be declared. -/
def chooseTag : Option TagText → Reads TagChoice
  | none => return .absent
  | some ⟨handle?, suffix⟩ => do
    let start ← match handle? with
      | none => pure ""
      | some handle =>
        match (← get).handles.lookup handle with
        | some start => pure start
        | none => refuse
    let name := start ++ suffix
    return if name = "!" then .byForm else .given (.ofName name)

/-- Reads the anchor and the tag before a node, in either order. -/
def readProperties : Reads Properties := do
  match ← readAnchor? with
  | some name => return { anchor? := some name, tag := ← chooseTag (← readTag?) }
  | none =>
    match ← readTag? with
    | none => return {}
    | some content =>
      let anchor? ← readAnchor?
      return { anchor?, tag := ← chooseTag (some content) }

/-- Gives a name to a node. -/
def nameNode (anchor? : Option String) (node : Node) : Reads Unit :=
  match anchor? with
  | none => pure ()
  | some name => modify fun pending => { pending with anchors := (name, node) :: pending.anchors }

/-- A name has not been given before. -/
def checkName (anchor? : Option String) : Reads Unit := do
  match anchor? with
  | none => pure ()
  | some name => if ((← get).anchors.lookup name).isSome then refuse else pure ()

/-- The node that a name refers to. -/
def readReference (name : String) : Reads Node := do
  match (← get).anchors.lookup name with
  | none => refuse
  | some (.enclosing isList 0) =>
    modify fun pending => { pending with selfReferring := true }
    return .enclosing isList 0
  | some node => return node

/-- The node that stands where nothing is written. -/
def emptyNode : Node :=
  .ofScalar .null []

/-- How deeply nodes may lie inside each other. -/
def maxDepth : Nat := 485

mutual

/-- The node that comes next, at a depth. Blocks are read only where they may stand; a list whose
items are not indented may stand behind a key. Each step takes one unit of `fuel`. -/
def readNode (fuel depth : Nat) (block unindented : Bool) : Reads Node :=
  match fuel with
  | 0 => refuse
  | fuel + 1 => do
    if maxDepth < depth then throw .nodesTooDeep
    match ← peekToken with
    | .reference name =>
      skipToken
      readReference name
    | _ =>
      let properties ← readProperties
      let token ← peekToken
      let starts (isList : Bool) : Reads Unit := do
        skipToken
        checkName properties.anchor?
        nameNode properties.anchor? (.enclosing isList depth)
      let named (node : Node) : Reads Node := do
        nameNode properties.anchor? node
        return node
      let sequence (items : List Node) : Reads Node :=
        named (.ofSequence (properties.tag.collection .list) items)
      let mapping (entries : NodeEntries) : Reads Node :=
        named (.ofMapping (properties.tag.collection .mapping) entries)
      match token with
      | .scalar content plain =>
        skipToken
        checkName properties.anchor?
        named (.ofScalar (properties.tag.scalar plain content) content)
      | .flowSequence =>
        starts true
        sequence (← readFlowItems fuel (depth + 1) true)
      | .flowMapping =>
        starts false
        mapping (← readFlowEntries fuel (depth + 1) true)
      | .blockSequence =>
        if !block then refuse
        starts true
        sequence (← readBlockItems fuel (depth + 1))
      | .blockMapping =>
        if !block then refuse
        starts false
        mapping (← readBlockEntries fuel (depth + 1))
      | token =>
        if unindented && token = .blockEntry then do
          checkName properties.anchor?
          nameNode properties.anchor? (.enclosing true depth)
          sequence (← readUnindentedItems fuel (depth + 1))
        else if properties.isEmpty then refuse
        else do
          checkName properties.anchor?
          named (.ofScalar (properties.tag.scalar true []) [])

/-- The node that comes next, or an empty one before certain tokens. -/
def readUnless (fuel depth : Nat) (block unindented : Bool) (ends : List Token) : Reads Node :=
  match fuel with
  | 0 => refuse
  | fuel + 1 => do
    if ends.contains (← peekToken) then return emptyNode
    else readNode fuel depth block unindented

/-- The value behind a key, or an empty one before certain tokens. -/
def readMapped (fuel depth : Nat) (block : Bool) (ends : List Token) : Reads Node :=
  match fuel with
  | 0 => refuse
  | fuel + 1 => do
    if ← skipIf .value then readUnless fuel depth block block ends else return emptyNode

/-- The items of a block list up to its end. -/
def readBlockItems (fuel depth : Nat) : Reads (List Node) :=
  match fuel with
  | 0 => refuse
  | fuel + 1 => do
    if ← skipIf .blockEntry then
      let item ← readUnless fuel depth true false [.blockEntry, .blockEnd]
      return item :: (← readBlockItems fuel depth)
    else
      expectToken .blockEnd
      return []

/-- The items of a block list that is not indented, up to its end. -/
def readUnindentedItems (fuel depth : Nat) : Reads (List Node) :=
  match fuel with
  | 0 => refuse
  | fuel + 1 => do
    if ← skipIf .blockEntry then
      let item ← readUnless fuel depth true false [.blockEntry, .key, .value, .blockEnd]
      return item :: (← readUnindentedItems fuel depth)
    else
      return []

/-- The entries of a block mapping up to its end. -/
def readBlockEntries (fuel depth : Nat) : Reads NodeEntries :=
  match fuel with
  | 0 => refuse
  | fuel + 1 => do
    let ends : List Token := [.key, .value, .blockEnd]
    if ← skipIf .key then
      let key ← readUnless fuel depth true true ends
      let value ← readMapped fuel depth true ends
      return (key, value) :: (← readBlockEntries fuel depth)
    else
      expectToken .blockEnd
      return []

/-- The items of a flow list up to its end; all but the first follow a comma. A single entry of a
mapping may stand for the whole mapping. -/
def readFlowItems (fuel depth : Nat) (first : Bool) : Reads (List Node) :=
  match fuel with
  | 0 => refuse
  | fuel + 1 => do
    if ← skipIf .flowSequenceEnd then return []
    if !first then expectToken .flowEntry
    if ← skipIf .flowSequenceEnd then return []
    let item ←
      if ← skipIf .key then
        let ends : List Token := [.flowEntry, .flowSequenceEnd]
        let key ← readUnless fuel (depth + 1) false false (.value :: ends)
        let value ← readMapped fuel (depth + 1) false ends
        pure (.ofMapping .mapping [(key, value)])
      else
        readNode fuel depth false false
    return item :: (← readFlowItems fuel depth false)

/-- The entries of a flow mapping up to its end; all but the first follow a comma. A key may stand
alone. -/
def readFlowEntries (fuel depth : Nat) (first : Bool) : Reads NodeEntries :=
  match fuel with
  | 0 => refuse
  | fuel + 1 => do
    if ← skipIf .flowMappingEnd then return []
    if !first then expectToken .flowEntry
    if ← skipIf .flowMappingEnd then return []
    let entry ←
      if ← skipIf .key then
        let ends : List Token := [.flowEntry, .flowMappingEnd]
        let key ← readUnless fuel depth false false (.value :: ends)
        let value ← readMapped fuel depth false ends
        pure (key, value)
      else
        let key ← readNode fuel depth false false
        pure (key, emptyNode)
    return entry :: (← readFlowEntries fuel depth false)

end

/-- Passes over the marks of ended documents. -/
def skipDocumentEnds (fuel : Nat) : Reads Unit :=
  match fuel with
  | 0 => pure ()
  | fuel + 1 => do
    if ← skipIf .documentEnd then skipDocumentEnds fuel

/-- The handles that mean something in every document. -/
def defaultHandles : List (String × String) :=
  [("!", "!"), ("!!", Tag.namespaceName)]

/-- Reads the directives before a document: the version, which is told once and starts with a one,
and handles, each declared once. -/
def readDirectives (fuel : Nat) (versioned : Bool) (handles : List (String × String)) :
    Reads Unit :=
  match fuel with
  | 0 => refuse
  | fuel + 1 => do
    match ← peekToken with
    | .directive (.version major) =>
      skipToken
      if versioned || major ≠ 1 then refuse
      readDirectives fuel true handles
    | .directive (.handle name start) =>
      skipToken
      if (handles.lookup name).isSome then refuse
      readDirectives fuel versioned ((name, start) :: handles)
    | .directive .unknown =>
      skipToken
      readDirectives fuel versioned handles
    | _ => modify fun pending => { pending with handles := handles ++ defaultHandles }

/-- Whether a token starts another document or ends the text. -/
def Token.endsContent : Token → Bool
  | .directive _ | .documentStart | .documentEnd | .streamEnd => true
  | _ => false

/-- The document that comes next, if there is one, with no other after it. -/
def readDocument (fuel : Nat) : Reads (Option Node) := do
  let token ← peekToken
  if token = .streamEnd then return none
  let explicit := token.endsContent && token ≠ .documentEnd
  readDirectives fuel false []
  if explicit then expectToken .documentStart
  let empty := explicit && (← peekToken).endsContent
  let node ← if empty then pure emptyNode else readNode fuel 0 true false
  skipDocumentEnds fuel
  expectToken .streamEnd
  return some node

end Yaml

end VersionOrder
