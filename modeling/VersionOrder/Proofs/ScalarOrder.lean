import VersionOrder.Interval.Scalar
import VersionOrder.Proofs.Sequence

/-!
# The order of numbers

Whole numbers, truth values and floating-point numbers together are ordered by their exact size,
the two infinities outside of all others, and numbers tie exactly if they are equal. The result of
an undefined operation has no size; it is left out.

## Main definitions

- `Number.compareBySize`: the order of numbers by their size
- `Scalar.Sized`: the values that are numbers with a size
-/

namespace VersionOrder

namespace Number

/-- Scaling two numbers up does not change their order. -/
theorem signum_mul_pow (m n : Int) (k : Nat) :
    signum (m * Nat.pow 2 k) (n * Nat.pow 2 k) = signum m n := by
  have hscale : (0 : Int) < (Nat.pow 2 k : Nat) := Int.natCast_pos.2 (Nat.pow_pos Nat.two_pos)
  simp only [signum, Int.mul_lt_mul_right hscale]

/-- Whole numbers are ordered as their sizes in the units of floating-point numbers are. -/
theorem signum_unitsOfInt (m n : Int) :
    signum (Binary64.unitsOfInt m) (Binary64.unitsOfInt n) = signum m n :=
  signum_mul_pow m n _

/-- A number with a size. -/
def Sized : Number → Prop
  | .real .nan => False
  | _ => True

/-- Where a number stands: before, among or after the finite ones. -/
def level : Number → Int
  | .real (.infinity negative) => if negative then -1 else 1
  | _ => 0

/-- The exact size of a finite number. -/
def units : Number → Int
  | .integer n => Binary64.unitsOfInt n
  | .real x => x.units?.getD 0

/-- The comparison of numbers by their size, infinities outside of the finite ones. -/
def compareBySize (m n : Number) : Int :=
  if signum m.level n.level = 0 then signum m.units n.units else signum m.level n.level

theorem signPreorderOn_compareBySize : SignPreorderOn compareBySize fun _ => True :=
  (signPreorderOn_signum.comap level).lex (signPreorderOn_signum.comap units)

/-- Numbers with a size are compared by it. -/
theorem compare?_eq {m n : Number} (hm : m.Sized) (hn : n.Sized) :
    m.compare? n = some (compareBySize m n) := by
  cases m with
  | integer m =>
    cases n with
    | integer n => exact congrArg some (signum_unitsOfInt m n).symm
    | real y =>
      cases y with
      | nan => exact hn.elim
      | infinity q => cases q <;> rfl
      | finite q n f =>
        -- The comparison is made the other way round and turned.
        exact congrArg some (signum_swap _ _).symm
  | real x =>
    cases x with
    | nan => exact hm.elim
    | infinity p =>
      cases n with
      | integer n => cases p <;> rfl
      | real y =>
        cases y with
        | nan => exact hn.elim
        | infinity q => cases p <;> cases q <;> rfl
        | finite q n f => cases p <;> rfl
    | finite p m e =>
      cases n with
      | integer n => rfl
      | real y =>
        cases y with
        | nan => exact hn.elim
        | infinity q => cases q <;> rfl
        | finite q n f => rfl

end Number

namespace Scalar

/-- A value that is a number with a size. -/
def Sized (x : Scalar) : Prop :=
  ∃ n, x.number? = some n ∧ n.Sized

theorem compare_of_number? {x y : Scalar} {m n : Number} (hx : x.number? = some m)
    (hy : y.number? = some n) : compare x y = .ok ((m.compare? n).getD 0) := by
  cases x <;> cases y <;> simp_all [compare, number?]

theorem same_of_number? {x y : Scalar} {m n : Number} (hx : x.number? = some m)
    (hy : y.number? = some n) : same x y = m.same n := by
  cases x <;> cases y <;> simp_all [same, number?]

/-- Numbers with a size are linearly ordered, whatever their kinds. -/
theorem linearOrderOn_natural : LinearOrderOn natural.compare same Sized := by
  let number : Scalar → Number := fun x => x.number?.getD (.integer 0)
  have hanswer : ∀ x y, x.Sized → y.Sized →
      natural.compare x y = .ok (Number.compareBySize (number x) (number y)) := by
    rintro x y ⟨m, hx, hm⟩ ⟨n, hy, hn⟩
    simp [natural, compare_of_number? hx hy, number, hx, hy, Number.compare?_eq hm hn]
  constructor
  · have horder := Number.signPreorderOn_compareBySize.comap number
    exact ⟨_, hanswer, horder.mono _ fun _ _ => trivial⟩
  · rintro x y ⟨m, hx, hm⟩ ⟨n, hy, hn⟩
    rw [hanswer x y ⟨m, hx, hm⟩ ⟨n, hy, hn⟩]
    simp [same_of_number? hx hy, number, hx, hy, Number.same, Number.compare?_eq hm hn]

end Scalar

end VersionOrder
