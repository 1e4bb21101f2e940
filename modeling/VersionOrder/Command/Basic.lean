import VersionOrder.Text.Blank

/-!
# Commands

A command line starts with general options, names a command, and goes on with the options and
operands of that command. Its words are sorted into options and operands by a parser from outside of
the library, which is told the options that there are.

## Main definitions

- `Switch`, `Arguments`: the options that a command line knows, and what it gives
- `Parser`: how words are sorted into options and operands
- `Command`: the commands, with everything that they are given
- `Verb`: the names of the commands
- `Request`: the general part of a command line
-/

namespace VersionOrder

/-- An option that a command line knows. -/
structure Switch where
  /-- The long name, without dashes. -/
  name : String
  /-- The letter, if there is one. -/
  letter? : Option Char := none
  /-- Whether a value follows. -/
  takesValue : Bool := false
  deriving DecidableEq, Repr

/-- The options and operands of a command line. -/
structure Arguments where
  /-- The options by their long names, each with its value; the value of an option that takes none
  is empty. -/
  options : List (String × Text) := []
  /-- The words that are neither options nor values of options. -/
  operands : List Text := []
  deriving DecidableEq, Repr

namespace Arguments

/-- The value of an option; of several, the last counts. -/
def value? (arguments : Arguments) (name : String) : Option Text :=
  arguments.options.reverse.lookup name

/-- Whether an option is given. -/
def has (arguments : Arguments) (name : String) : Bool :=
  (arguments.value? name).isSome

end Arguments

/-- What reading a command line, or a part of it, comes to. -/
inductive Reading (α : Type) where
  /-- It breaks the rules. -/
  | misused
  /-- It asks for help. -/
  | help
  /-- It says this. -/
  | read (value : α)
  deriving DecidableEq, Repr

/-- What is made of a reading by a rule that may find it broken. -/
def Reading.interpret {α β : Type} (reading : Reading α) (rule : α → Option β) : Reading β :=
  match reading with
  | .misused => .misused
  | .help => .help
  | .read value => (rule value).elim .misused .read

/-- How words are sorted into options and operands, by the options that there are. Options may stand
behind operands only if they are `mixed`. -/
abbrev Parser : Type :=
  (switches : List Switch) → (mixed : Bool) → (words : List Text) → Reading Arguments

/-- The bounds of a range that a command is given. -/
structure RangeOptions where
  /-- The lower bound, if there is one. -/
  lower? : Option Text := none
  /-- The upper bound, if there is one. -/
  upper? : Option Text := none
  /-- Whether the lower bound is excluded. -/
  lowerOpen : Bool := false
  /-- Whether the upper bound is excluded. -/
  upperOpen : Bool := false
  deriving DecidableEq, Repr

/-- A command with everything that it is given. -/
inductive Command where
  /-- Compares two versions. -/
  | compare (left right : Text) (scheme? : Option String)
  /-- Sorts versions, lowest or highest first. -/
  | sort (versions : List Text) (scheme? : Option String) (descending : Bool)
  /-- Reads a version and writes it again. -/
  | normalize (version : Text) (scheme? : Option String)
  /-- Tells whether a version lies in a range; if `strict`, one outside counts as a failure. -/
  | contains (version : Text) (range : RangeOptions) (scheme? : Option String) (strict : Bool)
  /-- Shows how a scheme reads a version. -/
  | inspect (version : Text) (scheme? : Option String)
  /-- Lists the schemes. -/
  | schemes
  deriving DecidableEq, Repr

/-- The name of a command. -/
inductive Verb where
  | compare
  | sort
  | normalize
  | contains
  | inspect
  | schemes
  deriving DecidableEq, Repr

namespace Verb

/-- The names, in order. -/
def all : List Verb :=
  [.compare, .sort, .normalize, .contains, .inspect, .schemes]

/-- The word for a command. -/
def code : Verb → String
  | .compare => "compare"
  | .sort => "sort"
  | .normalize => "normalize"
  | .contains => "contains"
  | .inspect => "inspect"
  | .schemes => "schemes"

/-- The command that a word names, spelled exactly. -/
def ofWord? (word : Text) : Option Verb :=
  all.find? fun verb => verb.code.toList = word

/-- The switch that selects a scheme. -/
def schemeSwitch : Switch :=
  { name := "scheme", letter? := some 's', takesValue := true }

/-- The switches of a command. -/
def switches : Verb → List Switch
  | .compare | .normalize | .inspect => [schemeSwitch]
  | .sort => [schemeSwitch, { name := "reverse", letter? := some 'r' }]
  | .contains =>
    [schemeSwitch, { name := "lower", letter? := some 'l', takesValue := true },
      { name := "upper", letter? := some 'u', takesValue := true }, { name := "lower-open" },
      { name := "upper-open" }, { name := "strict" }]
  | .schemes => []

/-- The command that options and operands make up, if the number of operands is right. -/
def command? (verb : Verb) (arguments : Arguments) : Option Command :=
  let scheme? := (arguments.value? "scheme").map String.ofList
  match verb, arguments.operands with
  | .compare, [left, right] => some (.compare left right scheme?)
  | .sort, first :: rest => some (.sort (first :: rest) scheme? (arguments.has "reverse"))
  | .normalize, [version] => some (.normalize version scheme?)
  | .contains, [version] =>
    let range : RangeOptions :=
      { lower? := arguments.value? "lower"
        upper? := arguments.value? "upper"
        lowerOpen := arguments.has "lower-open"
        upperOpen := arguments.has "upper-open" }
    some (.contains version range scheme? (arguments.has "strict"))
  | .inspect, [version] => some (.inspect version scheme?)
  | .schemes, [] => some .schemes
  | _, _ => none

/-- The command that some words behind its name make up. -/
def read (parser : Parser) (verb : Verb) (words : List Text) : Reading Command :=
  (parser verb.switches true words).interpret verb.command?

end Verb

/-- The general part of a command line, and the words that are left to the command. -/
structure Request where
  /-- The path of the settings, if one is given. -/
  settingsPath? : Option String := none
  /-- Whether everything is to be logged. -/
  verbose : Bool := false
  /-- The command. -/
  verb : Verb
  /-- The words behind the name of the command. -/
  words : List Text
  deriving DecidableEq, Repr

namespace Request

/-- The general switches. -/
def switches : List Switch :=
  [{ name := "config", letter? := some 'c', takesValue := true },
    { name := "verbose", letter? := some 'v' }]

/-- The request that general options and the words behind them make up, if they name a command. -/
def ofArguments? (arguments : Arguments) : Option Request :=
  match arguments.operands with
  | [] => none
  | name :: words =>
    (Verb.ofWord? name).map fun verb =>
      { settingsPath? := (arguments.value? "config").map String.ofList
        verbose := arguments.has "verbose"
        verb
        words }

/-- The request that a command line makes. -/
def read (parser : Parser) (words : List Text) : Reading Request :=
  (parser switches false words).interpret ofArguments?

end Request

end VersionOrder
