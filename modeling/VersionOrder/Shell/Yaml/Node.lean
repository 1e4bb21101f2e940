import VersionOrder.Shell.Yaml.Scalar

/-!
# Nodes of YAML documents

A node is a scalar, a sequence or a mapping, with a tag. The value of a node is formed when the node
is: a list for a sequence, a mapping for a mapping, or what another tag asks for. A mapping takes over
the entries of other mappings by merge keys.

Values are formed in turns. In the first turn there is a value for the whole document; if it has
items or entries, these get their values in the next turn, their own content in the turn after it,
and so on. Among several faults, that of the earliest turn counts, and within one turn the first.

## Main definitions

- `Yaml.Node`: the nodes
- `Yaml.Node.ofScalar`, `Yaml.Node.ofSequence`, `Yaml.Node.ofMapping`: nodes and their values
- `Yaml.Node.read`: the value of a node
-/

namespace VersionOrder

namespace Yaml

/-- The first fault of each turn. -/
abbrev Faults := List (Option ReadFault)

namespace Faults

/-- The faults of two parts together, in order. -/
def both : Faults → Faults → Faults
  | [], faults => faults
  | faults, [] => faults
  | first :: rest, second :: more => first.or second :: both rest more

/-- The faults of several parts together, in order. -/
def all (parts : List Faults) : Faults :=
  parts.foldr both []

/-- The faults of content that is formed one turn later. -/
def later (faults : Faults) : Faults :=
  if faults.isEmpty then [] else none :: faults

/-- A malformed value. -/
def malformed : Faults :=
  [some .malformed]

end Faults

/-- What a node comes to. -/
structure Meaning where
  /-- The value, if there is no fault. -/
  value : Value
  /-- The faults. -/
  faults : Faults := []
  /-- The text of a scalar, or of the value that a mapping stands for. -/
  text? : Option Text := none

namespace Meaning

/-- The meaning of a node without a value. -/
def ofFault (fault : ReadFault) : Meaning :=
  { value := .null, faults := [some fault] }

/-- The meaning of a text under a tag. -/
def ofResult (result : Except ReadFault Atom) (text? : Option Text) : Meaning :=
  match result with
  | .ok atom => { value := .atom atom, text? }
  | .error fault => { ofFault fault with text? }

/-- The meaning of a node whose content does not fit its tag for collections. -/
def misfit (value : Value) (text? : Option Text) : Meaning :=
  { value, faults := Faults.later Faults.malformed, text? }

end Meaning

/-- A node. -/
inductive Node where
  | scalar (tag : Tag) (content : Text) (meaning : Meaning)
  | sequence (tag : Tag) (items : List Node) (meaning : Meaning)
  /-- A mapping with its entries as written, and with those that merge keys add if they fit. -/
  | mapping (tag : Tag) (entries : List (Node × Node)) (merged? : Option (List (Node × Node)))
    (meaning : Meaning)
  /-- The sequence or mapping at a depth that the node lies in. -/
  | enclosing (isList : Bool) (depth : Nat)

/-- The entries of a mapping. -/
abbrev NodeEntries := List (Node × Node)

namespace Node

/-- The tag of a node; a node that it lies in has none. -/
def tag? : Node → Option Tag
  | .scalar tag _ _ => some tag
  | .sequence tag _ _ => some tag
  | .mapping tag _ _ _ => some tag
  | .enclosing _ _ => none

/-- What a node comes to. -/
def meaning : Node → Meaning
  | .scalar _ _ meaning => meaning
  | .sequence _ _ meaning => meaning
  | .mapping _ _ _ meaning => meaning
  | .enclosing isList depth => { value := .enclosing isList depth }

/-- The value of a node, if there is no fault. -/
def value (node : Node) : Value :=
  node.meaning.value

/-- The faults of a node. -/
def faults (node : Node) : Faults :=
  node.meaning.faults

/-- The empty value of the kind that a tag asks for, if it asks for a collection. -/
def emptyValue? : Tag → Option Value
  | .list | .orderedMap | .pairs => some (.list [])
  | .mapping => some (.mapping [])
  | .set => some (.set [])
  | _ => none

/-- The scalar with a tag and a content. -/
def ofScalar (tag : Tag) (content : Text) : Node :=
  .scalar tag content <|
    match emptyValue? tag with
    | some value => .misfit value (some content)
    | none => .ofResult (atomOf tag content) (some content)

/-- The meaning of a pair, which is a mapping with a single entry. -/
def pairMeaning : Node → Meaning
  | .mapping _ [(key, value)] _ _ =>
    { value := .pair key.value value.value, faults := key.faults.both value.faults }
  | _ => .ofFault .malformed

/-- The list that some meanings make up. -/
def listMeaning (meanings : List Meaning) : Meaning :=
  { value := .list (meanings.map Meaning.value)
    faults := (Faults.all (meanings.map Meaning.faults)).later }

/-- The sequence with a tag and some items. -/
def ofSequence (tag : Tag) (items : List Node) : Node :=
  .sequence tag items <|
    match tag with
    | .list => listMeaning (items.map meaning)
    | .orderedMap | .pairs => listMeaning (items.map pairMeaning)
    | tag =>
      match emptyValue? tag with
      | some value => .misfit value none
      | none => .ofFault .malformed

/-- The key that a node stands for, if its value is an atom. -/
def key? (node : Node) : Option Atom :=
  match node.value with
  | .atom a => some a
  | _ => none

/-- The faults of an entry: those of its key, that it is no atom, and those of its value. -/
def entryFaults (entry : Node × Node) : Faults :=
  let (key, value) := entry
  let unfit := if key.key?.isSome then [] else Faults.malformed
  key.faults.both (Faults.both unfit value.faults)

/-- The entries of a mapping whose keys are atoms, each key once. -/
def atomEntries (entries : NodeEntries) : List (Atom × Value) :=
  Value.ofEntries (entries.filterMap fun (key, value) => key.key?.map (·, value.value))

/-- The text that a mapping stands for: that of the value behind the first key with the tag for
it. -/
def standsFor? (entries : NodeEntries) : Option Text :=
  (entries.find? fun (key, _) => key.tag? = some .value).bind fun (_, value) => value.meaning.text?

/-- What the entries of a mapping come to under a tag; `merged?` are its entries with those that
merge keys add. -/
def mappingMeaning (tag : Tag) (entries : NodeEntries) (merged? : Option NodeEntries) : Meaning :=
  let text? := standsFor? entries
  match emptyValue? tag, tag, merged? with
  | some _, .mapping, some merged =>
    { value := .mapping (atomEntries merged)
      faults := (Faults.all (merged.map entryFaults)).later
      text? }
  | some _, .set, some merged =>
    { value := .set ((atomEntries merged).map Prod.fst)
      faults := (Faults.all (merged.map entryFaults)).later
      text? }
  | some value, _, _ => .misfit value text?
  | none, tag, _ =>
    match tag, text? with
    | _, none => .ofFault .malformed
    | .moment, _ => { Meaning.ofFault .momentNotText with text? }
    | tag, some content => .ofResult (atomOf tag content) text?

/-- The entries that a node gives to the mapping that it is merged into; it has to be a mapping. A
mapping that the node lies in gives nothing new. -/
def given? : Node → Option NodeEntries
  | .mapping _ _ merged? _ => merged?
  | .enclosing false _ => some []
  | _ => none

/-- The entries that the value of a merge key gives: those of a mapping, or of several, the last one
first. -/
def mergeEntries? : Node → Option NodeEntries
  | .sequence _ items _ => (items.mapM given?).map fun sources => sources.reverse.flatten
  | node => given? node

/-- A key that stands for the value of the mapping, as a text. -/
def asText : Node → Node
  | .scalar .value content _ => ofScalar .text content
  | .sequence .value items _ => ofSequence .text items
  | .mapping .value entries merged? _ =>
    .mapping .text entries merged? (mappingMeaning .text entries merged?)
  | node => node

/-- The entries of a mapping after those that its merge keys give, if all of these fit. -/
def mergeInto? (entries : NodeEntries) : Option NodeEntries := do
  let isMerge (entry : Node × Node) : Bool := entry.1.tag? = some .merge
  let sources ← (entries.filter isMerge).mapM fun (_, value) => mergeEntries? value
  let own := (entries.filter fun entry => !isMerge entry).map fun (key, value) =>
    (key.asText, value)
  return sources.flatten ++ own

/-- The mapping with a tag and some entries. -/
def ofMapping (tag : Tag) (entries : NodeEntries) : Node :=
  let merged? := mergeInto? entries
  .mapping tag entries merged? (mappingMeaning tag entries merged?)

/-- The value of a node, or the fault of the earliest turn that has one. -/
def read (node : Node) : Except ReadFault Value :=
  match node.faults.findSome? id with
  | some fault => .error fault
  | none => .ok node.value

end Node

end Yaml

end VersionOrder
