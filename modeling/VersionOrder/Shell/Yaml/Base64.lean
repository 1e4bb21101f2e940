import VersionOrder.Text.Blank

/-!
# Bytes written in base sixty-four

Four characters write three bytes, six bits each. Characters outside the alphabet are passed over.
The last bytes are padded with equals signs; the padding that completes a group of four ends the
reading.
-/

namespace VersionOrder

namespace Base64

/-- The six bits that a character stands for. -/
def sextet? (c : Char) : Option Nat :=
  if c.isUpper then some (c.toNat - 'A'.toNat)
  else if c.isLower then some (c.toNat - 'a'.toNat + 26)
  else if c.isDigit then some (c.toNat - '0'.toNat + 52)
  else if c = '+' then some 62
  else if c = '/' then some 63
  else none

/-- The bytes that a text goes on to write. The group that is being read has `place` characters so
far, of which `left` holds the bits not yet written, and `pads` equals signs. -/
def decodeFrom? (place left pads : Nat) : Text → Option (List UInt8)
  | [] => if place = 0 then some [] else none
  | c :: rest =>
    if c = '=' then
      if place < 2 then decodeFrom? place left pads rest
      else if 4 ≤ place + pads + 1 then some []
      else decodeFrom? place left (pads + 1) rest
    else
      match sextet? c with
      | none => decodeFrom? place left pads rest
      | some bits =>
        match place with
        | 0 => decodeFrom? 1 bits 0 rest
        | 1 => (decodeFrom? 2 (bits % 16) 0 rest).map (UInt8.ofNat (left * 4 + bits / 16) :: ·)
        | 2 => (decodeFrom? 3 (bits % 4) 0 rest).map (UInt8.ofNat (left * 16 + bits / 4) :: ·)
        | _ => (decodeFrom? 0 0 0 rest).map (UInt8.ofNat (left * 64 + bits) :: ·)

/-- The bytes that a text writes, if its last group is complete. -/
def decode? (s : Text) : Option (List UInt8) :=
  decodeFrom? 0 0 0 s

end Base64

end VersionOrder
