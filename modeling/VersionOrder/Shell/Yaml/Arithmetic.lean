import VersionOrder.Binary64
import VersionOrder.Numeral.Loose

/-!
# Sums, products and loosely written numbers

Sums and products are rounded to the nearest number, ties to even. A loosely written numeral may
have blanks around it, digits of any script and single underscores between digits.

## Main definitions

- `Binary64.add`, `Binary64.mulNat?`, `Binary64.neg`: arithmetic
- `Binary64.readLoose?`: the number that a loosely written numeral stands for
-/

namespace VersionOrder

namespace Binary64

/-- The number nearest to a fraction, zero included. -/
def ofRatio (negative : Bool) (numerator denominator : Nat) : Binary64 :=
  if numerator = 0 then .finite negative 0 minExponent
  else ofFraction negative numerator denominator

/-- A number with the other sign. -/
def neg : Binary64 → Binary64
  | .nan => .nan
  | .infinity negative => .infinity (!negative)
  | .finite negative mantissa exponent => .finite (!negative) mantissa exponent

/-- The sum of two numbers. -/
def add : Binary64 → Binary64 → Binary64
  | .nan, _ => .nan
  | _, .nan => .nan
  | .infinity p, .infinity q => if p = q then .infinity p else .nan
  | .infinity p, .finite _ _ _ => .infinity p
  | .finite _ _ _, .infinity q => .infinity q
  | x, y =>
    let sum := (units? x).getD 0 + (units? y).getD 0
    ofRatio (sum < 0) sum.natAbs (Nat.pow 2 (-minExponent).toNat)

/-- The number nearest to a whole number, if it is finite. -/
def ofNat? (n : Nat) : Option Binary64 :=
  match ofRatio false n 1 with
  | .infinity _ => none
  | x => some x

/-- The product of two numbers. -/
def mul : Binary64 → Binary64 → Binary64
  | .nan, _ => .nan
  | _, .nan => .nan
  | .infinity p, .finite q n _ => if n = 0 then .nan else .infinity (p != q)
  | .finite p m _, .infinity q => if m = 0 then .nan else .infinity (p != q)
  | .infinity p, .infinity q => .infinity (p != q)
  | .finite p m e, .finite q n f =>
    ofRatio (p != q) (m * n * Nat.pow 2 (e + f).toNat) (Nat.pow 2 (-(e + f)).toNat)

/-- The product of a number and a whole number, if the whole number is not past all finite
numbers. -/
def mulNat? (x : Binary64) (n : Nat) : Option Binary64 :=
  (ofNat? n).map x.mul

/-- A numeral without the underscores that part its digits; `previous?` is the character before
it. -/
def ungroup? (previous? : Option Char) : Text → Option Text
  | [] => if previous? = some '_' then none else some []
  | c :: rest =>
    if c = '_' then
      if previous?.any Char.isDigit then ungroup? (some c) rest else none
    else if previous? = some '_' && !c.isDigit then none
    else (ungroup? (some c) rest).map (c :: ·)

/-- The number that a loosely written numeral stands for. -/
def readLoose? (s : Text) : Option Binary64 :=
  (ungroup? none (Numeral.unpad s)).bind read?

end Binary64

end VersionOrder
