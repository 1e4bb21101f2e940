import Mathlib.Data.List.Lex
import Mathlib.Data.Char
import Mathlib.Data.Prod.Lex
import Mathlib.Data.Sum.Order
import VersionOrder.Proofs.Sequence

/-!
# Lexicographic comparison

Items that are compared as their keys are in a linear order: then two sequences, the shorter one filled
up with a padding item, are compared as the sequences of keys are in lexicographic order, filled up to
one length. Code-point order is the lexicographic order of the characters.

## Main definitions

- `threeWay`: the comparison of two values of a linear order
- `comparePadded`: the lexicographic comparison of two sequences filled up to one length
-/

namespace VersionOrder

/-- The comparison of two values: negative, zero or positive. -/
def threeWay {κ : Type} [LinearOrder κ] (a b : κ) : Int :=
  if a < b then -1 else if b < a then 1 else 0

/-- The lexicographic comparison of two sequences, the shorter one filled up with `pad`. -/
def comparePadded {κ : Type} [LinearOrder κ] (pad : κ) (left right : List κ) : Int :=
  let places := max left.length right.length
  threeWay (left.rightpad places pad) (right.rightpad places pad)

section ThreeWay

variable {κ ι : Type} [LinearOrder κ] [LinearOrder ι]

@[simp]
theorem threeWay_self (a : κ) : threeWay a a = 0 := by
  simp [threeWay]

theorem threeWay_of_lt {a b : κ} (h : a < b) : threeWay a b = -1 :=
  if_pos h

theorem threeWay_of_gt {a b : κ} (h : b < a) : threeWay a b = 1 := by
  rw [threeWay, if_neg (not_lt_of_gt h), if_pos h]

theorem threeWay_eq_zero_iff {a b : κ} : threeWay a b = 0 ↔ a = b := by
  rcases lt_trichotomy a b with h | rfl | h
  · simp [threeWay_of_lt h, ne_of_lt h]
  · simp
  · simp [threeWay_of_gt h, ne_of_gt h]

theorem threeWay_cons (a b : κ) (left right : List κ) :
    threeWay (a :: left) (b :: right) =
      if threeWay a b = 0 then threeWay left right else threeWay a b := by
  rcases lt_trichotomy a b with h | rfl | h
  · have hlist : a :: left < b :: right := List.cons_lt_cons_iff.2 (.inl h)
    rw [threeWay_of_lt hlist, threeWay_of_lt h]
    rfl
  · have htail : ∀ {l r : List κ}, l < r → a :: l < a :: r := fun h =>
      List.cons_lt_cons_iff.2 (.inr ⟨rfl, h⟩)
    rw [threeWay_self, if_pos rfl]
    rcases lt_trichotomy left right with h | rfl | h
    · rw [threeWay_of_lt h, threeWay_of_lt (htail h)]
    · rw [threeWay_self, threeWay_self]
    · rw [threeWay_of_gt h, threeWay_of_gt (htail h)]
  · have hlist : b :: right < a :: left := List.cons_lt_cons_iff.2 (.inl h)
    rw [threeWay_of_gt hlist, threeWay_of_gt h]
    rfl

theorem threeWay_toLex (a b : κ) (c d : ι) :
    threeWay (toLex (a, c)) (toLex (b, d)) = if threeWay a b = 0 then threeWay c d else threeWay a b := by
  rcases lt_trichotomy a b with h | rfl | h
  · have hpair : toLex (a, c) < toLex (b, d) := Prod.Lex.toLex_lt_toLex.2 (.inl h)
    rw [threeWay_of_lt hpair, threeWay_of_lt h]
    rfl
  · simp [threeWay, Prod.Lex.toLex_lt_toLex]
  · have hpair : toLex (b, d) < toLex (a, c) := Prod.Lex.toLex_lt_toLex.2 (.inl h)
    rw [threeWay_of_gt hpair, threeWay_of_gt h]
    rfl

theorem threeWay_inl (a b : κ) :
    threeWay (toLex (Sum.inl a : κ ⊕ ι)) (toLex (Sum.inl b)) = threeWay a b := by
  simp only [threeWay, Sum.Lex.inl_lt_inl_iff]

theorem threeWay_inr (a b : ι) :
    threeWay (toLex (Sum.inr a : κ ⊕ ι)) (toLex (Sum.inr b)) = threeWay a b := by
  simp only [threeWay, Sum.Lex.inr_lt_inr_iff]

theorem signPreorderOn_threeWay : SignPreorderOn (threeWay (κ := κ)) fun _ => True := by
  have hnonpos : ∀ {a b : κ}, threeWay a b ≤ 0 ↔ a ≤ b := by
    intro a b
    rcases lt_trichotomy a b with h | rfl | h
    · simp [threeWay_of_lt h, le_of_lt h]
    · simp
    · simp [threeWay_of_gt h, not_le_of_gt h]
  constructor
  · intro a b _ _
    rcases lt_trichotomy a b with h | rfl | h
    · simp [threeWay_of_lt h, threeWay_of_gt h]
    · simp
    · simp [threeWay_of_lt h, threeWay_of_gt h]
  · intro a b c _ _ _ hab hbc
    exact hnonpos.2 (le_trans (hnonpos.1 hab) (hnonpos.1 hbc))

end ThreeWay

theorem rightpad_succ {κ : Type} {pad : κ} {places : Nat} {keys : List κ}
    (h : keys.length ≤ places + 1) :
    keys.rightpad (places + 1) pad = keys.head?.getD pad :: keys.tail.rightpad places pad := by
  cases keys with
  | nil => rfl
  | cons k keys => simp [List.rightpad]

section Keyed

variable {α κ : Type} [LinearOrder κ] {f : α → α → Int} {key : α → κ} {values : α → Prop} {pad : α}

theorem SignPreorderOn.keyed (h : ∀ a b, values a → values b → f a b = threeWay (key a) (key b)) :
    SignPreorderOn f values := by
  refine ((signPreorderOn_threeWay.comap key).mono values fun _ _ => trivial).congr ?_
  intro a b ha hb
  rw [h a b ha hb]

/-- Two sequences are compared as their keys are, filled up to any length that has room for both. -/
theorem decisive_zipPadded_keyed (h : ∀ a b, values a → values b → f a b = threeWay (key a) (key b))
    (hpad : values pad) {places : Nat} {left right : List α} (hl : left.length ≤ places)
    (hr : right.length ≤ places) (hleft : ∀ a ∈ left, values a) (hright : ∀ a ∈ right, values a) :
    decisive ((zipPadded pad left right).map fun (a, b) => f a b) =
      threeWay ((left.map key).rightpad places (key pad))
        ((right.map key).rightpad places (key pad)) := by
  induction places generalizing left right with
  | zero =>
    rw [List.eq_nil_of_length_eq_zero (Nat.le_zero.1 hl),
      List.eq_nil_of_length_eq_zero (Nat.le_zero.1 hr)]
    exact (threeWay_self _).symm
  | succ places ih =>
    have hhead : ∀ {items : List α}, (∀ a ∈ items, values a) → values (items.head?.getD pad) := by
      intro items hitems
      cases items with
      | nil => exact hpad
      | cons a items => exact hitems a List.mem_cons_self
    have hpads : f pad pad = 0 := by rw [h pad pad hpad hpad, threeWay_self]
    have hfirst : ∀ items : List α,
        (items.map key).head?.getD (key pad) = key (items.head?.getD pad) := by
      intro items
      cases items <;> rfl
    rw [decisive_zipPadded f pad hpads, h _ _ (hhead hleft) (hhead hright),
      rightpad_succ (by simpa using hl), rightpad_succ (by simpa using hr), threeWay_cons, hfirst,
      hfirst, ← List.map_tail, ← List.map_tail,
      ih (by simp; omega) (by simp; omega) (fun a ha => hleft a (List.mem_of_mem_tail ha))
        fun a ha => hright a (List.mem_of_mem_tail ha)]

theorem decisive_zipPadded_eq (h : ∀ a b, values a → values b → f a b = threeWay (key a) (key b))
    (hpad : values pad) {left right : List α} (hleft : ∀ a ∈ left, values a)
    (hright : ∀ a ∈ right, values a) :
    decisive ((zipPadded pad left right).map fun (a, b) => f a b) =
      comparePadded (key pad) (left.map key) (right.map key) := by
  rw [comparePadded, List.length_map, List.length_map]
  exact decisive_zipPadded_keyed h hpad (Nat.le_max_left _ _) (Nat.le_max_right _ _) hleft hright

end Keyed

theorem Text.compare_eq_threeWay (s t : Text) : compare s t = threeWay s t := by
  induction s generalizing t with
  | nil => cases t <;> rfl
  | cons a s ih =>
    cases t with
    | nil => rfl
    | cons b t =>
      have hchar : ∀ {c d : Char}, c < d ↔ c.toNat < d.toNat := Iff.rfl
      rw [threeWay_cons, compare, ih]
      by_cases hlt : a < b
      · rw [if_pos (hchar.1 hlt), threeWay_of_lt hlt]
        rfl
      · rw [if_neg fun h => hlt (hchar.2 h)]
        by_cases hgt : b < a
        · rw [if_pos (hchar.1 hgt), threeWay_of_gt hgt]
          rfl
        · rw [if_neg fun h => hgt (hchar.2 h), if_pos]
          simp [threeWay, hlt, hgt]

end VersionOrder
