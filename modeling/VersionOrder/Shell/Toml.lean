import VersionOrder.Document.Json
import VersionOrder.Shell.Toml.Moment

/-!
# TOML documents

Reading of TOML texts: tables and arrays of tables, dotted and quoted keys, strings in all four
forms, numbers, truth values, dates and times, arrays and inline tables.

## Main definitions

- `Toml.read`: the mapping of a TOML text

## Design notes

Every nested reader takes a `fuel` that bounds its steps; `Toml.read` supplies more than a text of
its length can use up.
-/

namespace VersionOrder

namespace Toml

/-- The entries of a table. -/
abbrev Entries := List (Atom × Value)

/-- Whether a character is a blank within a line. -/
def isBlank (c : Char) : Bool :=
  c = ' ' || c = '\t'

/-- A text without the blanks it starts with. -/
def skipBlanks (s : Text) : Text :=
  s.dropWhile isBlank

/-- Whether a character may stand neither in a string nor in a comment. -/
def isControl (c : Char) : Bool :=
  (c.toNat < 0x20 && c ≠ '\t') || c.toNat = 0x7F

/-- A text without the blanks, line ends and comments it starts with. A character that may not stand
in a comment ends the gap, and nothing that is read next starts with it. -/
def skipGap (inComment : Bool) : Text → Text
  | [] => []
  | c :: rest =>
    if inComment then
      if c = '\n' then skipGap false rest
      else if isControl c then c :: rest
      else skipGap true rest
    else if isBlank c || c = '\n' then skipGap false rest
    else if c = '#' then skipGap true rest
    else c :: rest

/-- The text after the end of a line, which may hold only blanks and a comment. -/
def endLine (s : Text) : Except ReadFault Text :=
  match skipBlanks s with
  | [] => .ok []
  | '\n' :: rest => .ok rest
  | '#' :: rest =>
    if (rest.takeWhile (· ≠ '\n')).any isControl then .error .malformed
    else .ok ((rest.dropWhile (· ≠ '\n')).drop 1)
  | _ => .error .malformed

/-- The character of a code point, which has to be one. -/
def scalar? (n : Nat) : Option Char :=
  if n.isValidChar then some (Char.ofNat n) else none

/-- The character behind a single-letter escape. -/
def escaped? (c : Char) : Option Char :=
  if c = '/' then none else Json.escaped? c

/-- The content of a string with escapes up to its closing quote, and the text after it. -/
def readBasic : Text → Option (Text × Text)
  | [] => none
  | '"' :: rest => some ([], rest)
  | '\\' :: 'u' :: a :: b :: c :: d :: rest => do
    let char ← (← Numeral.hexNumber? [a, b, c, d]) |> scalar?
    let (content, tail) ← readBasic rest
    return (char :: content, tail)
  | '\\' :: 'U' :: a :: b :: c :: d :: e :: f :: g :: h :: rest => do
    let char ← (← Numeral.hexNumber? [a, b, c, d, e, f, g, h]) |> scalar?
    let (content, tail) ← readBasic rest
    return (char :: content, tail)
  | '\\' :: c :: rest => do
    let char ← escaped? c
    let (content, tail) ← readBasic rest
    return (char :: content, tail)
  | c :: rest =>
    if c = '\\' || isControl c then none
    else do
      let (content, tail) ← readBasic rest
      return (c :: content, tail)

/-- The content of a string without escapes up to its closing quote, and the text after it. -/
def readLiteral (s : Text) : Option (Text × Text) :=
  let content := s.takeWhile fun c => c ≠ '\'' && !isControl c
  match s.drop content.length with
  | '\'' :: tail => some (content, tail)
  | _ => none

/-- The content of a string over several lines up to its closing quotes, and the text after it. A
backslash at the end of a line, in a string with escapes, joins it to the next word. -/
def readLines (fuel : Nat) (mark : Char) (s : Text) : Option (Text × Text) :=
  match fuel with
  | 0 => none
  | fuel + 1 =>
    match s with
    | [] => none
    | a :: b :: c :: rest =>
      if a = mark && b = mark && c = mark then
        match rest with
        | d :: e :: tail =>
          if d = mark && e = mark then some ([mark, mark], tail)
          else if d = mark then some ([mark], e :: tail)
          else some ([], rest)
        | [d] => if d = mark then some ([mark], []) else some ([], [d])
        | [] => some ([], [])
      else if mark = '"' && a = '\\' then
        let joined := skipBlanks (b :: c :: rest)
        match joined with
        | '\n' :: _ => readLines fuel mark (joined.dropWhile fun x => isBlank x || x = '\n')
        | _ =>
          match b, c :: rest with
          | 'u', p :: q :: r :: t :: tail => do
            let char ← (← Numeral.hexNumber? [p, q, r, t]) |> scalar?
            let (content, tail) ← readLines fuel mark tail
            return (char :: content, tail)
          | 'U', p :: q :: r :: t :: u :: v :: w :: x :: tail => do
            let char ← (← Numeral.hexNumber? [p, q, r, t, u, v, w, x]) |> scalar?
            let (content, tail) ← readLines fuel mark tail
            return (char :: content, tail)
          | _, tail => do
            let char ← escaped? b
            let (content, tail) ← readLines fuel mark tail
            return (char :: content, tail)
      else if isControl a && a ≠ '\n' then none
      else do
        let (content, tail) ← readLines fuel mark (b :: c :: rest)
        return (a :: content, tail)
    | _ => none

/-- A line end at the start of a string over several lines does not belong to it. -/
def skipFirstLineEnd : Text → Text
  | '\n' :: rest => rest
  | s => s

/-- The string at the start of a text, and the text after it. -/
def readString (s : Text) : Except ReadFault (String × Text) :=
  let result := match s with
    | '"' :: '"' :: '"' :: rest => readLines (rest.length + 1) '"' (skipFirstLineEnd rest)
    | '\'' :: '\'' :: '\'' :: rest => readLines (rest.length + 1) '\'' (skipFirstLineEnd rest)
    | '"' :: rest => readBasic rest
    | '\'' :: rest => readLiteral rest
    | _ => none
  match result with
  | some (content, tail) => .ok (String.ofList content, tail)
  | none => .error .malformed

/-- Whether a character may stand in a key without quotes. -/
def isBare (c : Char) : Bool :=
  c.isAlphanum || c = '_' || c = '-'

/-- The part of a key at the start of a text, and the text after it. -/
def readKeyPart (s : Text) : Except ReadFault (String × Text) :=
  match s with
  | '"' :: rest =>
    match readBasic rest with
    | some (content, tail) => .ok (String.ofList content, tail)
    | none => .error .malformed
  | '\'' :: rest =>
    match readLiteral rest with
    | some (content, tail) => .ok (String.ofList content, tail)
    | none => .error .malformed
  | s =>
    let bare := s.takeWhile isBare
    if bare.isEmpty then .error .malformed else .ok (String.ofList bare, s.dropWhile isBare)

/-- The key at the start of a text, as the list of its parts, and the text after it. -/
def readKey (fuel : Nat) (s : Text) : Except ReadFault (List String × Text) :=
  match fuel with
  | 0 => .error .malformed
  | fuel + 1 => do
    let (part, afterPart) ← readKeyPart s
    match skipBlanks afterPart with
    | '.' :: rest => do
      let (parts, tail) ← readKey fuel (skipBlanks rest)
      return (part :: parts, tail)
    | tail => return ([part], tail)

/-- The digits of a number in which single underscores may stand between digits, and the text after
them. -/
def readDigits (accepts : Char → Bool) : Text → Text × Text
  | c :: '_' :: d :: rest =>
    if accepts c && accepts d then
      let (digits, tail) := readDigits accepts (d :: rest)
      (c :: digits, tail)
    else if accepts c then ([c], '_' :: d :: rest)
    else ([], c :: '_' :: d :: rest)
  | c :: rest =>
    if accepts c then
      let (digits, tail) := readDigits accepts rest
      (c :: digits, tail)
    else
      ([], c :: rest)
  | [] => ([], [])

/-- The power of ten at the end of a number, if there is one, and the text after it. -/
def readPower (s : Text) : Option Int × Text :=
  match s with
  | mark :: rest =>
    if mark = 'e' || mark = 'E' then
      let (negative, unsigned) := Numeral.splitSign rest
      let (digits, tail) := readDigits Char.isDigit unsigned
      if digits.isEmpty then (none, s)
      else
        let n : Int := Numeral.value digits
        (some (if negative then -n else n), tail)
    else
      (none, s)
  | [] => (none, s)

/-- The fraction and power of ten that turn a whole number into a floating-point one. -/
def readRealPart (s : Text) : Text × Option Int × Text :=
  let (fraction, afterFraction) := match s with
    | '.' :: rest =>
      let (digits, tail) := readDigits Char.isDigit rest
      if digits.isEmpty then ([], s) else (digits, tail)
    | _ => ([], s)
  (fraction, readPower afterFraction)

/-- The decimal number at the start of a text, without its sign, and the text after it. -/
def readDecimal (negative : Bool) (s : Text) : Except ReadFault (Value × Text) := do
  let (whole, afterWhole) := match s with
    | '0' :: rest => (['0'], rest)
    | rest => readDigits Char.isDigit rest
  if whole.isEmpty then .error .malformed
  else
    let (fraction, power?, tail) := readRealPart afterWhole
    if fraction.isEmpty && power?.isNone then
      return (← Json.wholeNumber negative whole, tail)
    else
      return (.real (Binary64.ofParts negative whole fraction (power?.getD 0)), tail)

/-- The number in another base at the start of a text, and the text after it. -/
def readInBase (base : Nat) (s : Text) : Except ReadFault (Value × Text) :=
  let (digits, tail) := readDigits (fun c => (Numeral.digitIn? base c).isSome) s
  if digits.isEmpty then .error .malformed
  else .ok (.integer (Numeral.valueIn base digits), tail)

/-- The number at the start of a text, and the text after it. -/
def readNumber (s : Text) : Except ReadFault (Value × Text) :=
  match s with
  | '0' :: 'x' :: rest => readInBase 16 rest
  | '0' :: 'o' :: rest => readInBase 8 rest
  | '0' :: 'b' :: rest => readInBase 2 rest
  | s =>
    let (negative, unsigned) := Numeral.splitSign s
    readDecimal negative unsigned

/-- The words that stand for values. -/
def words : List (Text × Value) :=
  [("true".toList, .boolean true), ("false".toList, .boolean false),
    ("inf".toList, .real (.infinity false)), ("+inf".toList, .real (.infinity false)),
    ("-inf".toList, .real (.infinity true)), ("nan".toList, .real .nan),
    ("+nan".toList, .real .nan), ("-nan".toList, .real .nan)]

/-- Changes the table at a path. Missing tables on the way are made; an array of tables stands for
its last one. -/
def update (change : Entries → Except ReadFault Entries) :
    List String → Entries → Except ReadFault Entries
  | [], entries => change entries
  | key :: path, entries =>
    match entries.lookup (.text key) with
    | none => do return Value.insert entries (.text key) (.mapping (← update change path []))
    | some (.mapping inner) => do
      return Value.insert entries (.text key) (.mapping (← update change path inner))
    | some (.list items) =>
      match items.getLast? with
      | some (.mapping inner) => do
        let last ← update change path inner
        return Value.insert entries (.text key) (.list (items.dropLast ++ [.mapping last]))
      | _ => .error .malformed
    | some _ => .error .malformed

/-- A table with one more entry, whose key has to be new. -/
def enter (key : String) (value : Value) (entries : Entries) : Except ReadFault Entries :=
  match entries.lookup (.text key) with
  | some _ => .error .malformed
  | none => .ok (entries ++ [(.text key, value)])

/-- A table with one more entry under a dotted key. -/
def enterAt (key : List String) (value : Value) (entries : Entries) : Except ReadFault Entries :=
  match key.getLast? with
  | some last => update (enter last value) key.dropLast entries
  | none => .error .malformed

/-- Arrays and inline tables lie too deeply inside each other. -/
def tooDeep : ReadFault :=
  .foreign ⟨"RecursionError", "maximum recursion depth exceeded"⟩

mutual

/-- The value at the start of a text, and the text after it. Each step of the reading uses up one
unit of `fuel`; an array inside another takes two units of `room`, and an inline table three. -/
def readValue (fuel room : Nat) (s : Text) : Except ReadFault (Value × Text) :=
  match fuel with
  | 0 => .error .malformed
  | fuel + 1 =>
    match words.find? fun (word, _) => word.isPrefixOf s with
    | some (word, value) => .ok (value, s.drop word.length)
    | none =>
      match s with
      | '"' :: _ | '\'' :: _ => do
        let (text, tail) ← readString s
        return (.text text, tail)
      | '[' :: rest =>
        if room < 2 then .error tooDeep
        else do
          let (items, tail) ← readItems fuel (room - 2) (skipGap false rest)
          return (.list items, tail)
      | '\x7b' :: rest =>
        match skipBlanks rest with
        | '\x7d' :: tail => .ok (.mapping [], tail)
        | entries =>
          if room < 3 then .error tooDeep
          else do
            let (table, tail) ← readInline fuel (room - 3) [] entries
            return (.mapping table, tail)
      | _ =>
        match readMoment? s with
        | some (.ok atom, tail) => .ok (.atom atom, tail)
        | some (.error _, _) => .error .malformed
        | none => readNumber s

/-- The items of an array up to its closing bracket, and the text after it. -/
def readItems (fuel room : Nat) (s : Text) : Except ReadFault (List Value × Text) :=
  match fuel with
  | 0 => .error .malformed
  | fuel + 1 =>
    match s with
    | ']' :: tail => .ok ([], tail)
    | _ => do
      let (value, afterValue) ← readValue fuel room s
      match skipGap false afterValue with
      | ',' :: rest => do
        let (values, tail) ← readItems fuel room (skipGap false rest)
        return (value :: values, tail)
      | ']' :: tail => return ([value], tail)
      | _ => .error .malformed

/-- The entries of an inline table up to its closing brace, after those already read, and the text
after it. -/
def readInline (fuel room : Nat) (known : Entries) (s : Text) :
    Except ReadFault (Entries × Text) :=
  match fuel with
  | 0 => .error .malformed
  | fuel + 1 => do
    let (key, afterKey) ← readKey fuel s
    match skipBlanks afterKey with
    | '=' :: rest => do
      let (value, afterValue) ← readValue fuel room (skipBlanks rest)
      let table ← enterAt key value known
      match skipBlanks afterValue with
      | ',' :: rest => readInline fuel room table (skipBlanks rest)
      | '\x7d' :: tail => return (table, tail)
      | _ => .error .malformed
    | _ => .error .malformed

end

/-- What has been read of a document. -/
structure Progress where
  /-- The entries of the whole document. -/
  root : Entries := []
  /-- The path of the table that entries go to. -/
  current : List String := []
  /-- The tables that have been declared. -/
  declared : List (List String) := []
  /-- The tables made by dotted keys since the last header. -/
  pending : List (List String) := []
  /-- The arrays and inline tables, which cannot be added to. -/
  frozen : List (List String) := []

namespace Progress

/-- Whether a path leads into a value that cannot be added to. -/
def isFrozen (progress : Progress) (path : List String) : Bool :=
  progress.frozen.any fun start => start.isPrefixOf path

/-- The document with the current table set by a header. -/
def openTable (progress : Progress) (path : List String) : Except ReadFault Progress := do
  let declared := progress.declared ++ progress.pending
  if declared.contains path || progress.isFrozen path then .error .malformed
  else
    let root ← update .ok path progress.root
    return { progress with root, current := path, declared := path :: declared, pending := [] }

/-- An array with one more, empty, table. -/
def addTable (key : String) (entries : Entries) : Except ReadFault Entries :=
  match entries.lookup (.text key) with
  | none => .ok (entries ++ [(.text key, .list [.mapping []])])
  | some (.list items) => .ok (Value.insert entries (.text key) (.list (items ++ [.mapping []])))
  | some _ => .error .malformed

/-- The document with one more table in an array of tables, to which entries go. -/
def openItem (progress : Progress) (path : List String) : Except ReadFault Progress := do
  match path.getLast? with
  | none => .error .malformed
  | some key =>
    if progress.isFrozen path then .error .malformed
    else
      let root ← update (addTable key) path.dropLast progress.root
      let declared := (progress.declared ++ progress.pending).filter fun other =>
        !path.isPrefixOf other
      let frozen := progress.frozen.filter fun other => !path.isPrefixOf other
      return { root, current := path, declared := path :: declared, pending := [], frozen }

/-- The document with one more entry in the current table. -/
def addEntry (progress : Progress) (key : List String) (value : Value) :
    Except ReadFault Progress := do
  let between := (List.range (key.length - 1)).map fun i =>
    progress.current ++ key.take (i + 1)
  if between.any progress.declared.contains then .error .malformed
  else if progress.isFrozen (progress.current ++ key.dropLast) then .error .malformed
  else
    let root ← update (enterAt key value) progress.current progress.root
    let frozen := match value with
      | .mapping _ | .list _ => (progress.current ++ key) :: progress.frozen
      | _ => progress.frozen
    return { progress with root, frozen, pending := progress.pending ++ between }

end Progress

/-- The room for arrays and inline tables inside each other. -/
def maxRoom : Nat := 988

/-- Reads the header or entry at the start of a text; also gives the text after it. -/
def readStatement (progress : Progress) (s : Text) : Except ReadFault (Progress × Text) := do
  let fuel := 2 * s.length + 2
  match s with
  | '[' :: '[' :: rest => do
    let (key, tail) ← readKey fuel (skipBlanks rest)
    match skipBlanks tail with
    | ']' :: ']' :: tail => return (← progress.openItem key, tail)
    | _ => .error .malformed
  | '[' :: rest => do
    let (key, tail) ← readKey fuel (skipBlanks rest)
    match skipBlanks tail with
    | ']' :: tail => return (← progress.openTable key, tail)
    | _ => .error .malformed
  | s => do
    let (key, tail) ← readKey fuel s
    match skipBlanks tail with
    | '=' :: rest => do
      let (value, tail) ← readValue fuel maxRoom (skipBlanks rest)
      return (← progress.addEntry key value, tail)
    | _ => .error .malformed

/-- Reads the statements of a text. -/
def readStatements (fuel : Nat) (progress : Progress) (s : Text) : Except ReadFault Progress :=
  match fuel with
  | 0 => .error .malformed
  | fuel + 1 =>
    match skipGap false s with
    | [] => .ok progress
    | statement => do
      let (progress, tail) ← readStatement progress statement
      readStatements fuel progress (← endLine tail)

/-- The mapping of a TOML text. -/
def read (s : Text) : Except ReadFault Value := do
  let progress ← readStatements (s.length + 1) {} s
  return .mapping progress.root

end Toml

end VersionOrder
