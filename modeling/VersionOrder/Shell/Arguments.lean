import VersionOrder.Command.Basic
import VersionOrder.Text.Cut

/-!
# Command-line arguments

The words of a command line are options, values of options, and operands. An option has a long name
after two dashes, and may have a letter after one; letters may be grouped, and a value follows its
option as the next word, behind an equals sign, or right behind the letter. Two dashes alone end
the options.

## Main definitions

- `Arguments.scan`: reading a command line; it fails on an unknown option, on an option without its
  value, and on a value for an option that takes none
- `Shell.parser`: the same as a parser, which may be asked for help
-/

namespace VersionOrder

/-- What one word of options says: the options that are complete, and the name of a last one whose
value is still to come. -/
structure OptionWord where
  /-- The options that are complete. -/
  options : List (String × Text)
  /-- The option that waits for its value. -/
  waiting? : Option String := none
  deriving DecidableEq, Repr

namespace OptionWord

/-- The long option with the given name, and the value behind its equals sign. -/
def readLong (switches : List Switch) (name : Text) (value? : Option Text) : Option OptionWord := do
  let switch ← switches.find? fun switch => switch.name.toList = name
  match switch.takesValue, value? with
  | true, some value => some { options := [(switch.name, value)] }
  | true, none => some { options := [], waiting? := some switch.name }
  | false, some _ => none
  | false, none => some { options := [(switch.name, [])] }

/-- A group of letters. The first that takes a value ends the group: what follows it is the
value. -/
def readLetters (switches : List Switch) : Text → Option OptionWord
  | [] => some { options := [] }
  | letter :: rest => do
    let switch ← switches.find? fun switch => switch.letter? = some letter
    if switch.takesValue then
      if rest.isEmpty then some { options := [], waiting? := some switch.name }
      else some { options := [(switch.name, rest)] }
    else
      let word ← readLetters switches rest
      return { word with options := (switch.name, []) :: word.options }

/-- The options that a word says, without its first dash. -/
def read (switches : List Switch) (word : Text) : Option OptionWord :=
  match word with
  | '-' :: long =>
    match Text.cutAt? ['='] long with
    | some (name, value) => readLong switches name (some value)
    | none => readLong switches long none
  | letters => readLetters switches letters

end OptionWord

namespace Arguments

/-- The arguments with some options in front. -/
def withOptions (options : List (String × Text)) (arguments : Arguments) : Arguments :=
  { arguments with options := options ++ arguments.options }

/-- The arguments with an operand in front. -/
def withOperand (operand : Text) (arguments : Arguments) : Arguments :=
  { arguments with operands := operand :: arguments.operands }

/-- The arguments that some words give, the first of them the value of the option that waits for
one. Unless options and operands are `mixed`, everything from the first operand on is operands. A
dash alone is an operand. -/
def scanFrom (switches : List Switch) (mixed : Bool) :
    Option String → List Text → Option Arguments
  | none, [] => some {}
  | some _, [] => none
  | some name, value :: rest =>
    (scanFrom switches mixed none rest).map (withOptions [(name, value)])
  | none, word :: rest =>
    match word with
    | ['-', '-'] => some { operands := rest }
    | '-' :: c :: tail => do
      let options ← OptionWord.read switches (c :: tail)
      return (← scanFrom switches mixed options.waiting? rest).withOptions options.options
    | operand =>
      if mixed then (scanFrom switches mixed none rest).map (withOperand operand)
      else some { operands := operand :: rest }

/-- The arguments that some words give. -/
def scan (switches : List Switch) (mixed : Bool) (words : List Text) : Option Arguments :=
  scanFrom switches mixed none words

end Arguments

namespace Shell

/-- The switch that asks for help. -/
def helpSwitch : Switch :=
  { name := "help" }

/-- What some words give; help if it is asked for. -/
def parser : Parser := fun switches mixed words =>
  match Arguments.scan (helpSwitch :: switches) mixed words with
  | none => .misused
  | some arguments => if arguments.has helpSwitch.name then .help else .read arguments

end Shell

end VersionOrder
