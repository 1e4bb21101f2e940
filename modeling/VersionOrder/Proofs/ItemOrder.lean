import VersionOrder.Item
import VersionOrder.Proofs.Sequence

/-!
# The order of items

Numbers come after qualifiers, and the end of a version stands where a zero does. Where qualifiers
stand relative to the end of a version is up to the family. The comparison of items is a total
preorder on every set of items without a qualifier at or after the end, on every set without the
end, and on every set without numbers; a set with all three need not be ordered.

## Main definitions

- `Item.Written`: the items that a version can have
- `Item.level`, `Item.name`: what decides between two items, one after the other
-/

namespace VersionOrder

namespace Item

/-- An item that a version can have: a magnitude or a qualifier. -/
def Written : Item → Prop
  | .numeric n => 0 ≤ n
  | .qualifier _ => True
  | .releaseMarker => False

/-- The place of an item among the numbers: qualifiers stand below zero. -/
def level : Item → Int
  | .numeric n => n
  | .qualifier _ => -1
  | .releaseMarker => 0

/-- The text that decides between qualifiers; the end of a version has none. -/
def name : Item → Text
  | .qualifier q => q
  | _ => []

theorem written_of_mem_ofRuns {s : Text} {item : Item} (h : item ∈ ofRuns s) : item.Written := by
  obtain ⟨⟨digits, run⟩, _, rfl⟩ := List.mem_map.1 h
  cases digits with
  | true => exact Int.natCast_nonneg _
  | false => trivial

/-- All items of a version are written. -/
theorem written_of_mem_ofTokens {leaveOutBuild : Bool} {tokens : List Token} {item : Item}
    (h : item ∈ ofTokens leaveOutBuild tokens) : item.Written := by
  have hkept := List.mem_reverse.1 (List.dropWhile_subset _ (List.mem_reverse.1 h))
  obtain ⟨t, _, ht⟩ := List.mem_flatMap.1 hkept
  exact written_of_mem_ofRuns ht

section Order

variable {order : QualifierOrder} {values : Item → Prop}

theorem compare_swap (hq : ∀ p q, order.compare q p = -order.compare p q) (a b : Item) :
    compare order b a = -compare order a b := by
  cases a with
  | numeric m =>
    cases b with
    | numeric n => exact signum_swap m n
    | qualifier q => rfl
    | releaseMarker => rfl
  | qualifier p =>
    cases b with
    | numeric n => rfl
    | qualifier q => exact hq p q
    | releaseMarker => rfl
  | releaseMarker => cases b <;> simp [compare, compareToMarker]

theorem compareAll_swap (hq : ∀ p q, order.compare q p = -order.compare p q)
    (left right : List Item) : compareAll order right left = -compareAll order left right :=
  decisive_zipPadded_swap _ _ (compare_swap hq) left right

/-- The items at the first place decide, and the rest where they tie. -/
theorem compareAll_eq_head (left right : List Item) :
    compareAll order left right =
      if compare order (left.head?.getD .releaseMarker) (right.head?.getD .releaseMarker) = 0 then
        compareAll order left.tail right.tail
      else compare order (left.head?.getD .releaseMarker) (right.head?.getD .releaseMarker) :=
  decisive_zipPadded (compare order) .releaseMarker rfl left right

/-- The comparison of items by level, then by name. -/
def compareByLevel (order : QualifierOrder) (a b : Item) : Int :=
  if signum a.level b.level = 0 then order.compare a.name b.name else signum a.level b.level

theorem signPreorderOn_compareByLevel (hq : SignPreorderOn order.compare fun _ => True) :
    SignPreorderOn (compareByLevel order) fun _ => True :=
  (signPreorderOn_signum.comap level).lex (hq.comap name)

theorem compareByLevel_of_lt {a b : Item} (h : a.level < b.level) :
    compareByLevel order a b = -1 := by
  simp [compareByLevel, signum_of_lt h]

theorem compareByLevel_of_gt {a b : Item} (h : b.level < a.level) :
    compareByLevel order a b = 1 := by
  simp [compareByLevel, signum_of_gt h]

theorem compareByLevel_of_eq {a b : Item} (h : a.level = b.level) :
    compareByLevel order a b = order.compare a.name b.name := by
  simp [compareByLevel, h]

/-- Level and name decide between items, if numbers are magnitudes and the end of a version is
compared only with qualifiers before it. -/
theorem sign_compare (hq : SignPreorderOn order.compare fun _ => True)
    (hnumber : ∀ n, values (.numeric n) → 0 ≤ n)
    (hend : values .releaseMarker → ∀ q, values (.qualifier q) → order.compareToRelease q < 0)
    {a b : Item} (ha : values a) (hb : values b) :
    (compare order a b).sign = (compareByLevel order a b).sign := by
  have hself : order.compare [] [] = 0 := hq.self trivial
  cases a with
  | numeric m =>
    have hm := hnumber m ha
    cases b with
    | numeric n =>
      by_cases h : signum m n = 0 <;> simp [compare, compareByLevel, level, name, h, hself]
    | qualifier q =>
      rw [compareByLevel_of_gt (by simp only [level]; omega)]
      rfl
    | releaseMarker =>
      by_cases h : m = 0
      · rw [compareByLevel_of_eq (by simp only [level, h])]
        simp [compare, compareToMarker, h, name, hself]
      · rw [compareByLevel_of_gt (by simp only [level]; omega)]
        simp [compare, compareToMarker, h]
  | qualifier p =>
    cases b with
    | numeric n =>
      have hn := hnumber n hb
      rw [compareByLevel_of_lt (by simp only [level]; omega)]
      rfl
    | qualifier q =>
      have hlevel : (qualifier p).level = (qualifier q).level := rfl
      rw [compareByLevel_of_eq hlevel]
      rfl
    | releaseMarker =>
      rw [compareByLevel_of_lt (by simp [level])]
      exact Int.sign_eq_neg_one_of_neg (hend hb p ha)
  | releaseMarker =>
    cases b with
    | numeric n =>
      have hn := hnumber n hb
      by_cases h : n = 0
      · rw [compareByLevel_of_eq (by simp only [level, h])]
        simp [compare, compareToMarker, h, name, hself]
      · rw [compareByLevel_of_lt (by simp only [level]; omega)]
        simp [compare, compareToMarker, h]
    | qualifier q =>
      rw [compareByLevel_of_gt (by simp [level])]
      have hneg := hend ha q hb
      exact Int.sign_eq_one_of_pos (by simp only [compare, compareToMarker]; omega)
    | releaseMarker =>
      rw [compareByLevel_of_eq rfl]
      simp [compare, compareToMarker, name, hself]

/-- Items are ordered if all qualifiers among them come before the end of a version, or if the end
of a version is not among them. -/
theorem signPreorderOn_compare (hq : SignPreorderOn order.compare fun _ => True)
    (hnumber : ∀ n, values (.numeric n) → 0 ≤ n)
    (hend : values .releaseMarker → ∀ q, values (.qualifier q) → order.compareToRelease q < 0) :
    SignPreorderOn (compare order) values :=
  ((signPreorderOn_compareByLevel hq).mono values fun _ _ => trivial).congr
    (sign_compare hq hnumber hend)

/-- Items without numbers are ordered by name, if the end of a version is compared as the empty
qualifier. -/
theorem signPreorderOn_compare_of_notNumeric (hq : SignPreorderOn order.compare fun _ => True)
    (hrelease : ∀ q, order.compareToRelease q = order.compare q [])
    (hnumber : ∀ n, ¬values (.numeric n)) : SignPreorderOn (compare order) values := by
  refine ((hq.comap name).mono values fun _ _ => trivial).congr ?_
  intro a b ha hb
  cases a with
  | numeric m => exact absurd ha (hnumber m)
  | qualifier p =>
    cases b with
    | numeric n => exact absurd hb (hnumber n)
    | qualifier q => rfl
    | releaseMarker => exact congrArg Int.sign (hrelease p)
  | releaseMarker =>
    cases b with
    | numeric n => exact absurd hb (hnumber n)
    | qualifier q =>
      simp only [compare, compareToMarker, hrelease, name, Int.sign_neg]
      exact (hq.sign_swap trivial trivial).symm
    | releaseMarker => exact congrArg Int.sign (hq.self trivial).symm

/-- Sequences of ordered items are ordered. -/
theorem signPreorderOn_compareAll (h : SignPreorderOn (compare order) values)
    (hend : values .releaseMarker) :
    SignPreorderOn (compareAll order) fun items => ∀ item ∈ items, values item :=
  h.padded hend

end Order

end Item

end VersionOrder
