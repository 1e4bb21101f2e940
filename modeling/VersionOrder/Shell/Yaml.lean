import VersionOrder.Shell.Yaml.Tree

/-!
# YAML documents

Reading of YAML texts. A text is cut into tokens, the tokens make up the nodes of a single document,
and the nodes form its value.

## Main definitions

- `Value.unroll`: a mapping that refers to itself
- `Yaml.read`: the value of a YAML text
-/

namespace VersionOrder

namespace Value

mutual

/-- A value with `root` in the places that refer to the whole document. -/
def replaceRoot (root : Value) : Value → Value
  | .list items => .list (replaceRoots root items)
  | .pair first second => .pair (replaceRoot root first) (replaceRoot root second)
  | .mapping entries => .mapping (replaceRootIn root entries)
  | .enclosing isList depth => if depth = 0 then root else .enclosing isList depth
  | value => value

/-- Items with `root` in the places that refer to the whole document. -/
def replaceRoots (root : Value) : List Value → List Value
  | [] => []
  | item :: rest => replaceRoot root item :: replaceRoots root rest

/-- Entries with `root` in the places that refer to the whole document. -/
def replaceRootIn (root : Value) : List (Atom × Value) → List (Atom × Value)
  | [] => []
  | (key, value) :: rest => (key, replaceRoot root value) :: replaceRootIn root rest

end

/-- The mark of a value inside itself. -/
def mark : Value → Value
  | .list _ => .enclosing true 1
  | .mapping _ => .enclosing false 1
  | value => value

/-- A mapping that refers to the whole of itself, with the mapping in place of these references. In
the mapping that an entry's value refers to, the entry itself is only marked. -/
def unroll : Value → Value
  | .mapping entries =>
    .mapping (entries.map fun (key, value) =>
      (key, replaceRoot (.mapping (insert entries key value.mark)) value))
  | value => value

end Value

namespace Yaml

/-- Whether a character may stand in a text at all. -/
def isAllowed (c : Char) : Bool :=
  let n := c.toNat
  n = 9 || n = 10 || n = 13 || (0x20 ≤ n && n ≤ 0x7E) || n = 0x85 ||
    (0xA0 ≤ n && n ≤ 0xD7FF) || (0xE000 ≤ n && n ≤ 0xFFFD) || 0x10000 ≤ n

/-- The value of a YAML text; a text without a document is null. -/
def read (s : Text) : Except ReadFault Value := do
  if !s.all isAllowed then .error .malformed
  else
    let (tokens, fault?) := Token.scan s
    let fuel := 4 * tokens.length + 4
    match ← (readDocument fuel).run { tokens, fault := fault?.getD .malformed } with
    | (none, _) => return .null
    | (some node, pending) =>
      let value ← node.read
      return if pending.selfReferring then value.unroll else value

end Yaml

end VersionOrder
