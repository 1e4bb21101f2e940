import VersionOrder.Document.Fault
import VersionOrder.Document.Moment
import VersionOrder.Number

/-!
# Documents

The values that a document holds, whichever notation it is written in. Atoms are values without
parts; only they are keys of mappings and members of sets. A mapping keeps its entries in the order
of their keys' first appearance; a key that appears again takes its last value.

## Main definitions

- `Atom`: the values without parts
- `Atom.same`: whether two atoms are one key
- `Value`: the values
- `Value.insert`, `Value.ofEntries`: entries of a mapping
- `Value.isFalsy`: values that count as nothing
- `Value.write`: a value in writing, as far as it is not nested too deeply
-/

namespace VersionOrder

/-- A value without parts. -/
inductive Atom where
  | null
  | boolean (b : Bool)
  | integer (n : Int)
  | real (x : Binary64)
  | text (s : String)
  | bytes (content : List UInt8)
  | date (d : Date)
  | clock (c : Clock)
  | moment (m : Moment)
  deriving Repr, Inhabited

namespace Atom

/-- The name of the kind of an atom. -/
def kind : Atom → String
  | .null => "NoneType"
  | .boolean _ => "bool"
  | .integer _ => "int"
  | .real _ => "float"
  | .text _ => "str"
  | .bytes _ => "bytes"
  | .date _ => "date"
  | .clock _ => "time"
  | .moment _ => "datetime"

/-- The number that an atom counts as, if it does; the truth values count as zero and one. -/
def number? : Atom → Option Number
  | .boolean b => some (.integer (if b then 1 else 0))
  | .integer n => some (.integer n)
  | .real x => some (.real x)
  | _ => none

/-- Whether two atoms are one key: numbers of the same size, and other atoms of one kind that are
equal. -/
def same (left right : Atom) : Bool :=
  match left, right with
  | .null, .null => true
  | .text s, .text t => s = t
  | .bytes s, .bytes t => s = t
  | .date d, .date e => d = e
  | .clock c, .clock d => c = d
  | .moment m, .moment n => m.same n
  | left, right =>
    match left.number?, right.number? with
    | some m, some n => m.same n
    | _, _ => false

instance : BEq Atom := ⟨same⟩

@[simp]
theorem text_beq_text (s t : String) : (Atom.text s == Atom.text t) = (s == t) := by
  simp [BEq.beq, same]

/-- Whether an atom counts as nothing. -/
def isFalsy : Atom → Bool
  | .null => true
  | .boolean b => !b
  | .integer n => n = 0
  | .real (.finite _ mantissa _) => mantissa = 0
  | .text s => s.isEmpty
  | .bytes content => content.isEmpty
  | _ => false

/-- One byte between quotes of the given kind. -/
def byteLiteral (mark : Char) (byte : UInt8) : Text :=
  if 0x80 ≤ byte then '\\' :: 'x' :: Text.hexDigits 2 byte.toNat
  else Text.quoteChar mark (Char.ofNat byte.toNat)

/-- Some bytes between quotes: ASCII characters that print stand for themselves. -/
def bytesLiteral (content : List UInt8) : String :=
  let mark := Text.quoteMark (content.map fun byte => Char.ofNat byte.toNat)
  String.ofList ('b' :: mark :: content.flatMap (byteLiteral mark) ++ [mark])

/-- An atom in writing. -/
def literal : Atom → String
  | .null => "None"
  | .boolean b => if b then "True" else "False"
  | .integer n => s!"{n}"
  | .real x => x.display
  | .text s => quoted s
  | .bytes content => bytesLiteral content
  | .date d => d.literal
  | .clock c => c.literal
  | .moment m => m.literal

/-- An atom as a bare word: a text stands for itself, and dates and times are written out. -/
def word : Atom → String
  | .text s => s
  | .date d => d.display
  | .clock c => c.display
  | .moment m => m.display
  | atom => atom.literal

/-- Whether an atom is no whole number with too many digits to be written. -/
def isWritable : Atom → Bool
  | .integer n => n.natAbs < Nat.pow 10 Numeral.digitLimit
  | _ => true

/-- How deep an atom is nested as it is written. -/
def depth : Atom → Nat
  | .moment m => m.depth
  | _ => 0

/-- An atom in writing, as far as there is `room` for what is nested in it. -/
def write (room : Nat) (a : Atom) : Except WriteFault String :=
  if room < a.depth then .error .tooDeep
  else if a.isWritable then .ok a.literal
  else .error .tooLong

end Atom

/-- A value in a document. -/
inductive Value where
  | atom (a : Atom)
  | list (items : List Value)
  | pair (first second : Value)
  | mapping (entries : List (Atom × Value))
  | set (members : List Atom)
  /-- A list or mapping that the value lies in, `depth` steps below the root of the document. -/
  | enclosing (isList : Bool) (depth : Nat)
  deriving Repr, Inhabited

namespace Value

/-- The value without content. -/
@[match_pattern]
abbrev null : Value := .atom .null

/-- A truth value. -/
@[match_pattern]
abbrev boolean (b : Bool) : Value := .atom (.boolean b)

/-- A whole number. -/
@[match_pattern]
abbrev integer (n : Int) : Value := .atom (.integer n)

/-- A floating-point number. -/
@[match_pattern]
abbrev real (x : Binary64) : Value := .atom (.real x)

/-- A text. -/
@[match_pattern]
abbrev text (s : String) : Value := .atom (.text s)

/-- The name of the kind of a value. -/
def kind : Value → String
  | .atom a => a.kind
  | .list _ => "list"
  | .pair _ _ => "tuple"
  | .mapping _ => "dict"
  | .set _ => "set"
  | .enclosing isList _ => if isList then "list" else "dict"

/-- Entries with one more: a key that is already there keeps its place and takes the new value. -/
def insert {κ α : Type} [BEq κ] (entries : List (κ × α)) (key : κ) (value : α) : List (κ × α) :=
  match entries with
  | [] => [(key, value)]
  | (k, v) :: rest =>
    if key == k then (k, value) :: rest else (k, v) :: insert rest key value

/-- Entries with each key once, at the place of its first appearance and with its last value. -/
def ofEntries {κ α : Type} [BEq κ] (entries : List (κ × α)) : List (κ × α) :=
  entries.foldl (fun known (key, value) => insert known key value) []

/-- The mapping of some names, each of them once. -/
def object (entries : List (String × Value)) : Value :=
  .mapping (entries.map fun (name, value) => (.text name, value))

/-- Whether a value counts as nothing: null, false, zero, and whatever is empty. -/
def isFalsy : Value → Bool
  | .atom a => a.isFalsy
  | .list items => items.isEmpty
  | .mapping entries => entries.isEmpty
  | .set members => members.isEmpty
  | _ => false

/-- Some literals with commas between them. -/
def listed (literals : List String) : String :=
  ", ".intercalate literals

/-- What is written one level further down, where `room` is left for it. -/
def inside {α : Type} (room : Nat) (writing : Nat → Except WriteFault α) : Except WriteFault α :=
  match room with
  | 0 => .error .tooDeep
  | room + 1 => writing room

mutual

/-- A value in writing; `room` is how many levels may be nested inside it. What comes first and
cannot be written decides how the writing fails. A set is written by way of a list. -/
def write (room : Nat) : Value → Except WriteFault String
  | .atom a => a.write room
  | .list items => do return "[" ++ listed (← writeItems room items) ++ "]"
  | .pair first second => do
    let first ← inside room fun room => write room first
    let second ← inside room fun room => write room second
    return "(" ++ first ++ ", " ++ second ++ ")"
  | .mapping entries => do return "\x7b" ++ listed (← writeEntries room entries) ++ "\x7d"
  | .set [] => .ok "set()"
  | .set (first :: rest) => do
    let members ← inside room fun room =>
      (first :: rest).mapM fun member => inside room fun room => member.write room
    return "\x7b" ++ listed members ++ "\x7d"
  | .enclosing isList _ => .ok (if isList then "[...]" else "\x7b...\x7d")

/-- The items of a list in writing. -/
def writeItems (room : Nat) : List Value → Except WriteFault (List String)
  | [] => .ok []
  | item :: rest => do
    let written ← inside room fun room => write room item
    return written :: (← writeItems room rest)

/-- The entries of a mapping in writing. -/
def writeEntries (room : Nat) : List (Atom × Value) → Except WriteFault (List String)
  | [] => .ok []
  | (key, value) :: rest => do
    let key ← inside room fun room => key.write room
    let value ← inside room fun room => write room value
    return (key ++ ": " ++ value) :: (← writeEntries room rest)

end

end Value

end VersionOrder
