/-!
# Surrogates

Half of a surrogate pair is no character of its own, but an escape in a document may name one. A
text holds it as the private character of the last plane that is `0x100000` code points after it.

## Main definitions

- `Text.charAt`: the character that stands for a code point
- `Text.surrogate?`: the surrogate that a character stands for
-/

namespace VersionOrder

namespace Text

/-- Whether a code point is half of a surrogate pair. -/
def isSurrogate (code : Nat) : Bool :=
  0xD800 ≤ code && code < 0xE000

/-- The character that stands for a code point. -/
def charAt (code : Nat) : Char :=
  Char.ofNat (if isSurrogate code then code + 0x100000 else code)

/-- The surrogate that a character stands for. -/
def surrogate? (c : Char) : Option Nat :=
  if isSurrogate (c.toNat - 0x100000) then some (c.toNat - 0x100000) else none

end Text

end VersionOrder
