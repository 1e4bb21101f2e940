import VersionOrder.Text.Blank

/-!
# Reading UTF-8

Decoding of a byte sequence into a text. Overlong forms, surrogates and code points past the last
plane are refused at the first byte that rules the sequence out.

## Main definitions

- `Utf8.Fault`: where and why decoding stops
- `Utf8.decode`: the text of a byte sequence
-/

namespace VersionOrder

namespace Utf8

/-- Why a byte sequence is no UTF-8. -/
inductive Reason where
  | invalidStart
  | invalidContinuation
  | truncated
  deriving DecidableEq, Repr

/-- The bytes from `start` up to, not including, `stop` cannot be decoded; `byte` is the first of
them. -/
structure Fault where
  /-- The first byte of the sequence at fault. -/
  byte : UInt8
  /-- The position of that byte. -/
  start : Nat
  /-- The position after the sequence at fault. -/
  stop : Nat
  /-- What is wrong with it. -/
  reason : Reason
  deriving DecidableEq, Repr

/-- The wording of a reason. -/
def Reason.message : Reason → String
  | .invalidStart => "invalid start byte"
  | .invalidContinuation => "invalid continuation byte"
  | .truncated => "unexpected end of data"

/-- The two lower-case hexadecimal digits of a byte. -/
def hexByte (b : UInt8) : String :=
  let digits := Nat.toDigits 16 b.toNat
  String.ofList (List.replicate (2 - digits.length) '0' ++ digits)

/-- The wording of a fault: a single byte is shown, a longer sequence only placed. -/
def Fault.message (f : Fault) : String :=
  let place :=
    if f.stop = f.start + 1 then
      s!"byte 0x{hexByte f.byte} in position {f.start}"
    else
      s!"bytes in position {f.start}-{f.stop - 1}"
  s!"'utf-8' codec can't decode {place}: {f.reason.message}"

/-- Whether a byte continues a sequence. -/
def isContinuation (b : UInt8) : Bool :=
  0x80 ≤ b && b < 0xC0

/-- Whether a second byte keeps a three-byte sequence in its range: no overlong form and no
surrogate. -/
def fitsThree (a b : UInt8) : Bool :=
  isContinuation b && (a != 0xE0 || 0xA0 ≤ b) && (a != 0xED || b < 0xA0)

/-- Whether a second byte keeps a four-byte sequence in its range: no overlong form and no code
point past the last plane. -/
def fitsFour (a b : UInt8) : Bool :=
  isContinuation b && (a != 0xF0 || 0x90 ≤ b) && (a != 0xF4 || b < 0x90)

/-- The six payload bits of a continuation byte. -/
def payload (b : UInt8) : Nat :=
  b.toNat % 0x40

/-- Decodes the bytes from a position on. -/
def decodeFrom (position : Nat) : List UInt8 → Except Fault Text
  | [] => .ok []
  | a :: rest =>
    let fail (width : Nat) (reason : Reason) : Except Fault Text :=
      .error ⟨a, position, position + width, reason⟩
    if a < 0x80 then
      return Char.ofNat a.toNat :: (← decodeFrom (position + 1) rest)
    else if a < 0xC2 then
      fail 1 .invalidStart
    else if a < 0xE0 then
      match rest with
      | [] => fail 1 .truncated
      | b :: rest =>
        if isContinuation b then
          return Char.ofNat (a.toNat % 0x20 * 0x40 + payload b) ::
            (← decodeFrom (position + 2) rest)
        else
          fail 1 .invalidContinuation
    else if a < 0xF0 then
      match rest with
      | [] => fail 1 .truncated
      | [b] => if fitsThree a b then fail 2 .truncated else fail 1 .invalidContinuation
      | b :: c :: rest =>
        if !fitsThree a b then fail 1 .invalidContinuation
        else if !isContinuation c then fail 2 .invalidContinuation
        else
          return Char.ofNat ((a.toNat % 0x10 * 0x40 + payload b) * 0x40 + payload c) ::
            (← decodeFrom (position + 3) rest)
    else if a < 0xF5 then
      match rest with
      | [] => fail 1 .truncated
      | [b] => if fitsFour a b then fail 2 .truncated else fail 1 .invalidContinuation
      | [b, c] =>
        if !fitsFour a b then fail 1 .invalidContinuation
        else if !isContinuation c then fail 2 .invalidContinuation
        else fail 3 .truncated
      | b :: c :: d :: rest =>
        if !fitsFour a b then fail 1 .invalidContinuation
        else if !isContinuation c then fail 2 .invalidContinuation
        else if !isContinuation d then fail 3 .invalidContinuation
        else
          return Char.ofNat
              (((a.toNat % 0x08 * 0x40 + payload b) * 0x40 + payload c) * 0x40 + payload d) ::
            (← decodeFrom (position + 4) rest)
    else
      fail 1 .invalidStart

/-- The text of a byte sequence. -/
def decode (bytes : List UInt8) : Except Fault Text :=
  decodeFrom 0 bytes

end Utf8

end VersionOrder
