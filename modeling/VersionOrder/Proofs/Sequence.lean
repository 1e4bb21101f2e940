import VersionOrder.Padded
import VersionOrder.Proofs.Preorder
import VersionOrder.Text.Blank

/-!
# Orders of sequences

Sequences are compared place by place in two ways: the shorter one is filled up with a padding
value, or it comes first where the other one goes on. Both are total preorders if the comparison of
single items is one. Code-point order is of the second kind.

## Main definitions

- `orMissing`: a comparison of items that may be missing, a missing one first
-/

namespace VersionOrder

variable {α : Type}

theorem signum_swap (m n : Int) : signum n m = -signum m n := by
  simp only [signum]
  split <;> split <;> omega

theorem signum_of_lt {m n : Int} (h : m < n) : signum m n = -1 :=
  if_pos h

theorem signum_of_gt {m n : Int} (h : n < m) : signum m n = 1 := by
  rw [signum_swap n m, signum_of_lt h]
  rfl

theorem signum_eq_zero_iff {m n : Int} : signum m n = 0 ↔ m = n := by
  simp only [signum]
  split
  next => omega
  next => split <;> omega

/-- Numbers are totally ordered by `signum`. -/
theorem signPreorderOn_signum : SignPreorderOn signum fun _ => True := by
  constructor
  · intro m n _ _
    rw [signum_swap m n]
    omega
  · intro l m n _ _ _ hlm hmn
    simp only [signum] at *
    split at hlm <;> split at hmn <;> split <;> omega

theorem zipPadded_swap (pad : α) (left right : List α) :
    zipPadded pad right left = (zipPadded pad left right).map Prod.swap := by
  induction left generalizing right with
  | nil => simp [zipPadded, Function.comp_def]
  | cons a left ih =>
    cases right with
    | nil => simp [zipPadded, Function.comp_def]
    | cons b right => simp [zipPadded, ih]

theorem decisive_map_neg (results : List Int) :
    decisive (results.map fun r => -r) = -decisive results := by
  induction results with
  | nil => rfl
  | cons r results ih =>
    by_cases h : r = 0
    · simp [decisive, h, ih]
    · simp [decisive, h]

theorem decisive_append (results rest : List Int) :
    decisive (results ++ rest) = if decisive results = 0 then decisive rest else decisive results := by
  induction results with
  | nil => rfl
  | cons r results ih => by_cases h : r = 0 <;> simp [decisive, h, ih]

/-- The first item with a result of its own decides. -/
theorem decisive_map (f : α → Int) (items : List α) :
    decisive (items.map f) = (items.find? fun a => f a ≠ 0).elim 0 f := by
  induction items with
  | nil => rfl
  | cons a items ih => by_cases h : f a = 0 <;> simp [decisive, h, ih]

/-- Swapping two padded sequences turns the result if swapping two items does. -/
theorem decisive_zipPadded_swap (f : α → α → Int) (pad : α) (hf : ∀ a b, f b a = -f a b)
    (left right : List α) :
    decisive ((zipPadded pad right left).map fun (a, b) => f a b) =
      -decisive ((zipPadded pad left right).map fun (a, b) => f a b) := by
  rw [zipPadded_swap pad left right, List.map_map, ← decisive_map_neg, List.map_map]
  congr 1
  exact List.map_congr_left fun ⟨a, b⟩ _ => hf a b

/-- The items at the first place decide, and the rest where they tie. -/
theorem decisive_zipPadded (f : α → α → Int) (pad : α) (hpad : f pad pad = 0)
    (left right : List α) :
    decisive ((zipPadded pad left right).map fun (a, b) => f a b) =
      if f (left.head?.getD pad) (right.head?.getD pad) = 0 then
        decisive ((zipPadded pad left.tail right.tail).map fun (a, b) => f a b)
      else f (left.head?.getD pad) (right.head?.getD pad) := by
  cases left with
  | nil =>
    cases right with
    | nil => simp [zipPadded, decisive, hpad]
    | cons b right => simp [zipPadded, decisive]
  | cons a left =>
    cases right with
    | nil => simp [zipPadded, decisive]
    | cons b right => rfl

/-- Padded sequences are compared by a preorder if their items and the padding are. -/
theorem SignPreorderOn.padded {f : α → α → Int} {values : α → Prop} (h : SignPreorderOn f values)
    {pad : α} (hpad : values pad) :
    SignPreorderOn
      (fun left right => decisive ((zipPadded pad left right).map fun (a, b) => f a b))
      fun items => ∀ a ∈ items, values a := by
  refine SignPreorderOn.ofHead (fun a? b? => f (a?.getD pad) (b?.getD pad)) rfl
    (decisive_zipPadded f pad (h.self hpad)) ?_
  refine (h.comap fun a? : Option α => a?.getD pad).mono _ ?_
  intro a? ha
  cases a? with
  | none => exact hpad
  | some a => exact ha a rfl

/-- The comparison of two items either of which may be missing; a missing item comes first. -/
def orMissing (f : α → α → Int) : Option α → Option α → Int
  | none, none => 0
  | none, some _ => -1
  | some _, none => 1
  | some a, some b => f a b

theorem SignPreorderOn.orMissing {f : α → α → Int} {values : α → Prop}
    (h : SignPreorderOn f values) :
    SignPreorderOn (orMissing f) fun item? => ∀ a ∈ item?, values a := by
  constructor
  · intro a? b? ha hb
    cases a? with
    | none => cases b? <;> simp [VersionOrder.orMissing]
    | some a =>
      cases b? with
      | none => simp [VersionOrder.orMissing]
      | some b => exact h.pos_iff (ha a rfl) (hb b rfl)
  · intro a? b? c? ha hb hc hab hbc
    cases a? with
    | none => cases c? <;> simp [VersionOrder.orMissing]
    | some a =>
      cases b? with
      | none => simp [VersionOrder.orMissing] at hab
      | some b =>
        cases c? with
        | none => simp [VersionOrder.orMissing] at hbc
        | some c => exact h.trans (ha a rfl) (hb b rfl) (hc c rfl) hab hbc

namespace Text

/-- The order of single characters. -/
def compareChar (a b : Char) : Int :=
  signum a.toNat b.toNat

theorem compare_swap (s t : Text) : compare t s = -compare s t := by
  induction s generalizing t with
  | nil => cases t <;> simp [compare]
  | cons a s ih =>
    cases t with
    | nil => simp [compare]
    | cons b t =>
      simp only [compare, ih t]
      split <;> split <;> omega

theorem compare_eq_head (s t : Text) :
    compare s t = if orMissing compareChar s.head? t.head? = 0 then compare s.tail t.tail
      else orMissing compareChar s.head? t.head? := by
  cases s with
  | nil => cases t <;> simp [compare, orMissing]
  | cons a s =>
    cases t with
    | nil => simp [compare, orMissing]
    | cons b t =>
      simp only [compare, List.head?_cons, List.tail_cons, orMissing, compareChar, signum,
        Int.ofNat_lt]
      split
      next => simp
      next => split <;> simp

/-- Code-point order is a total preorder. -/
theorem signPreorderOn_compare : SignPreorderOn compare fun _ => True := by
  have hchar : SignPreorderOn compareChar fun _ => True :=
    signPreorderOn_signum.comap fun c : Char => (c.toNat : Int)
  have hlists := SignPreorderOn.ofHead _ rfl compare_eq_head hchar.orMissing
  exact hlists.mono _ fun _ _ _ _ => trivial

end Text

end VersionOrder
