import VersionOrder.Document.Fault
import VersionOrder.Shell.Moment

/-!
# Why a YAML document cannot be read

Most faults break the rules of the notation. The others are scalars that are marked as something that
their text does not write, and escapes without a character.
-/

namespace VersionOrder

namespace ReadFault

/-- A text that is marked as a number has no digits. -/
def emptyNumber : ReadFault :=
  .foreign ⟨"IndexError", "string index out of range"⟩

/-- A text that is marked as a floating-point number writes none. -/
def notReal (word : String) : ReadFault :=
  .foreign ⟨"ValueError", s!"could not convert string to float: {quoted word}"⟩

/-- A whole number exceeds all floating-point numbers. -/
def integerTooLarge : ReadFault :=
  .foreign ⟨"OverflowError", "int too large to convert to float"⟩

/-- A word that is marked as a truth value names none. -/
def unknownTruth (word : String) : ReadFault :=
  .foreign ⟨"KeyError", quoted word⟩

/-- A text that is marked as a moment writes none. -/
def notMoment : ReadFault :=
  .foreign ⟨"AttributeError", "'NoneType' object has no attribute 'groupdict'"⟩

/-- A mapping is marked as a moment. -/
def momentNotText : ReadFault :=
  .foreign ⟨"TypeError", "expected string or bytes-like object, got 'list'"⟩

/-- A moment does not exist. -/
def noSuchMoment (fault : MomentFault) : ReadFault :=
  .foreign ⟨"ValueError", fault.message⟩

/-- An escape names a code point past the last one. -/
def noSuchCharacter (code : Nat) : ReadFault :=
  if code < 0x80000000 then .foreign ⟨"ValueError", "chr() arg not in range(0x110000)"⟩
  else .foreign ⟨"OverflowError", "Python int too large to convert to C int"⟩

/-- The nodes of a document lie too deeply inside each other. -/
def nodesTooDeep : ReadFault :=
  .foreign ⟨"RecursionError", "maximum recursion depth exceeded while calling a Python object"⟩

end ReadFault

end VersionOrder
