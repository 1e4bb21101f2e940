import VersionOrder.Numeral.Loose

/-!
# Why a document cannot be read or a value written

Most faults break the rules of the notation. The others are values that are written by the rules but
cannot be formed: numbers with too many digits and documents that are nested too deeply. The same
two bounds hold for the writing of values.

## Main definitions

- `ForeignFault`: what code outside of the library raises
- `ReadFault`: why a document cannot be read
- `WriteFault`: why a value cannot be written
-/

namespace VersionOrder

/-- What code outside of the library raises. -/
structure ForeignFault where
  /-- The name of its kind. -/
  kind : String
  /-- Its wording. -/
  message : String
  deriving DecidableEq, Repr

/-- The kinds of thing that are nested too deeply. -/
inductive Nesting where
  | list
  | mapping
  deriving DecidableEq, Repr

/-- What goes on when something is nested too deeply. -/
def Nesting.activity : Nesting → String
  | .list => " while decoding a JSON array from a unicode string"
  | .mapping => " while decoding a JSON object from a unicode string"

/-- Why a document cannot be read. -/
inductive ReadFault where
  /-- The document breaks the rules of its notation. -/
  | malformed
  /-- A text that is marked as a number writes none. -/
  | notNumber (fault : NumeralFault)
  /-- The document is nested too deeply. -/
  | tooDeep (nesting : Nesting)
  /-- A reader outside of the library raises something else. -/
  | foreign (fault : ForeignFault)
  deriving DecidableEq, Repr

/-- The wording of a fault. -/
def ReadFault.message : ReadFault → String
  | .malformed => "malformed document"
  | .notNumber fault => fault.message
  | .tooDeep nesting => "maximum recursion depth exceeded" ++ nesting.activity
  | .foreign fault => fault.message

/-- Why a value cannot be written. -/
inductive WriteFault where
  /-- It holds a whole number with too many digits. -/
  | tooLong
  /-- It is nested too deeply. -/
  | tooDeep
  deriving DecidableEq, Repr

/-- The wording of a fault. -/
def WriteFault.message : WriteFault → String
  | .tooLong =>
    "Exceeds the limit (4300 digits) for integer string conversion; " ++
      "use sys.set_int_max_str_digits() to increase the limit"
  | .tooDeep => "maximum recursion depth exceeded while getting the repr of an object"

end VersionOrder
