/-!
# Comparing sequences of different length

Two sequences are compared place by place, the shorter one filled up with a padding value; the
first place that differs decides.

## Main definitions

- `zipPadded`: the pairs at equal places
- `decisive`: the first non-zero result
- `signum`: the comparison of two numbers
-/

namespace VersionOrder

/-- The comparison of two numbers: negative, zero or positive. -/
def signum (left right : Int) : Int :=
  if left < right then -1 else if right < left then 1 else 0

/-- The values at equal places of two lists, the shorter one filled up with `pad`. -/
def zipPadded {α : Type} (pad : α) : List α → List α → List (α × α)
  | [], right => right.map fun b => (pad, b)
  | a :: left, [] => (a, pad) :: left.map fun x => (x, pad)
  | a :: left, b :: right => (a, b) :: zipPadded pad left right

/-- The first result that is not zero, or zero if there is none. -/
def decisive : List Int → Int
  | [] => 0
  | r :: rest => if r = 0 then decisive rest else r

@[simp]
theorem signum_self (a : Int) : signum a a = 0 := by
  simp [signum]

@[simp]
theorem zipPadded_nil_right {α : Type} (pad : α) (left : List α) :
    zipPadded pad left [] = left.map fun a => (a, pad) := by
  cases left <;> rfl

/-- The result is zero exactly if every place ties. -/
theorem decisive_eq_zero_iff {results : List Int} :
    decisive results = 0 ↔ ∀ r ∈ results, r = 0 := by
  induction results with
  | nil => simp [decisive]
  | cons r rest ih => by_cases h : r = 0 <;> simp [decisive, h, ih]

end VersionOrder
