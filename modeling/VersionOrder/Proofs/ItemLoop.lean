import VersionOrder.Proofs.ItemOrder

/-!
# Loops of item sequences

A zero ties with the end of a version and comes after every qualifier, but a family may place a
qualifier at or after the end. Three sequences can then go round in a circle: the first goes on with
a zero where the second has ended and the third goes on with such a qualifier. The main statements
say that a loop is a circle, and that every circle is a loop.

## Main definitions

- `Item.Loop`: the loops
-/

namespace VersionOrder

namespace Item

/-- Three sequences that tie in pairs up to some place. There the second one has ended, the first
one goes on with a zero but not past the end of a version, and the third one goes on with a
qualifier but not before the end of a version. -/
inductive Loop (order : QualifierOrder) : List Item → List Item → List Item → Prop where
  /-- The place is the first one. -/
  | here {zeros qualified : List Item} {q : Text}
      (hzero : compareAll order (.numeric 0 :: zeros) [] ≤ 0)
      (hqualifier : compareAll order [] (.qualifier q :: qualified) ≤ 0) :
      Loop order (.numeric 0 :: zeros) [] (.qualifier q :: qualified)
  /-- The place is a later one; the second sequence may have ended before it. -/
  | later {zeros ended qualified : List Item} {a c : Item}
      (hab : compare order a (ended.head?.getD .releaseMarker) = 0)
      (hbc : compare order (ended.head?.getD .releaseMarker) c = 0)
      (hca : compare order c a = 0) (hrest : Loop order zeros ended.tail qualified) :
      Loop order (a :: zeros) ended (c :: qualified)

variable {order : QualifierOrder}

/-- Each sequence of a loop is not after the next one, and the last one is before the first. -/
theorem Loop.circle {left middle right : List Item} (h : Loop order left middle right) :
    compareAll order left middle ≤ 0 ∧ compareAll order middle right ≤ 0 ∧
      compareAll order right left < 0 := by
  induction h with
  | here hzero hqualifier =>
    refine ⟨hzero, hqualifier, ?_⟩
    rw [compareAll_eq_head]
    simp [compare]
  | @later zeros ended qualified a c hab hbc hca _ ih =>
    rw [compareAll_eq_head (a :: zeros) ended, compareAll_eq_head ended (c :: qualified),
      compareAll_eq_head (c :: qualified) (a :: zeros)]
    simpa [hab, hbc, hca] using ih

theorem Loop.ne_nil {left middle right : List Item} (h : Loop order left middle right) :
    left ≠ [] ∧ right ≠ [] := by
  cases h <;> simp

/-- A loop of the rests is a loop of the sequences, if the first items tie in pairs. -/
theorem Loop.of_tail {left middle right : List Item}
    (h : Loop order left.tail middle.tail right.tail)
    (hlm : compare order (left.head?.getD .releaseMarker)
      (middle.head?.getD .releaseMarker) = 0)
    (hmr : compare order (middle.head?.getD .releaseMarker)
      (right.head?.getD .releaseMarker) = 0)
    (hrl : compare order (right.head?.getD .releaseMarker)
      (left.head?.getD .releaseMarker) = 0) : Loop order left middle right := by
  cases left with
  | nil => exact absurd rfl h.ne_nil.1
  | cons a left =>
    cases right with
    | nil => exact absurd rfl h.ne_nil.2
    | cons c right => exact .later hlm hmr hrl h

/-- A written sequence that pads with the end of a version has ended. -/
theorem eq_nil_of_head?_getD {items : List Item} (hw : ∀ item ∈ items, item.Written)
    (h : items.head?.getD .releaseMarker = .releaseMarker) : items = [] := by
  cases items with
  | nil => rfl
  | cons a items =>
    have ha : a = .releaseMarker := h
    exact absurd (hw a List.mem_cons_self) (by simp [ha, Written])

theorem eq_cons_of_head?_getD {items : List Item} {a : Item} (ha : a ≠ .releaseMarker)
    (h : items.head?.getD .releaseMarker = a) : items = a :: items.tail := by
  cases items with
  | nil => exact absurd h.symm ha
  | cons b items => exact congrArg (· :: items) h

/-- A circle whose first items are a zero, the end of a version and a qualifier is a loop. -/
theorem Loop.of_heads {left middle right : List Item} {q : Text}
    (hw : ∀ item ∈ middle, item.Written)
    (hl : left.head?.getD .releaseMarker = .numeric 0)
    (hm : middle.head?.getD .releaseMarker = .releaseMarker)
    (hr : right.head?.getD .releaseMarker = .qualifier q)
    (hlm : compareAll order left middle ≤ 0) (hmr : compareAll order middle right ≤ 0) :
    Loop order left middle right := by
  have el := eq_cons_of_head?_getD (by simp) hl
  have em := eq_nil_of_head?_getD hw hm
  have er := eq_cons_of_head?_getD (by simp) hr
  subst em
  rw [el] at hlm ⊢
  rw [er] at hmr ⊢
  exact .here hlm hmr

theorem nonneg_of_head?_getD {items : List Item} (hw : ∀ item ∈ items, item.Written) {n : Int}
    (h : .numeric n = items.head?.getD .releaseMarker) : 0 ≤ n := by
  have hcons := eq_cons_of_head?_getD (by simp) h.symm
  have hwritten : (numeric n).Written := hw _ (by rw [hcons]; exact List.mem_cons_self)
  exact hwritten

theorem compare_head_nonpos {left right : List Item} (h : compareAll order left right ≤ 0) :
    compare order (left.head?.getD .releaseMarker) (right.head?.getD .releaseMarker) ≤ 0 := by
  rw [compareAll_eq_head] at h
  split at h <;> omega

theorem compareAll_of_tie {left right : List Item}
    (h : compare order (left.head?.getD .releaseMarker) (right.head?.getD .releaseMarker) = 0) :
    compareAll order left right = compareAll order left.tail right.tail := by
  rw [compareAll_eq_head, if_pos h]

section Circle

variable (hq : SignPreorderOn order.compare fun _ => True)
  (hrelease : ∀ q, order.compareToRelease q = order.compare q [])

include hq hrelease

/-- Three items in a circle that do not all tie are a number, a qualifier and the end of a
version. -/
theorem kinds_of_circle {a b c : Item}
    (hnumber : ∀ n, .numeric n = a ∨ .numeric n = b ∨ .numeric n = c → 0 ≤ n)
    (hab : compare order a b ≤ 0) (hbc : compare order b c ≤ 0) (hca : compare order c a ≤ 0)
    (hne : ¬(compare order a b = 0 ∧ compare order b c = 0 ∧ compare order c a = 0)) :
    (∃ n, .numeric n = a ∨ .numeric n = b ∨ .numeric n = c) ∧
      (∃ q, .qualifier q = a ∨ .qualifier q = b ∨ .qualifier q = c) ∧
      (.releaseMarker = a ∨ .releaseMarker = b ∨ .releaseMarker = c) := by
  let among : Item → Prop := fun item => item = a ∨ item = b ∨ item = c
  -- If one kind is missing, the items are ordered, and a circle of ordered items ties.
  have unordered : ¬SignPreorderOn (compare order) among := fun h =>
    hne (h.tie_of_circle (.inl rfl) (.inr (.inl rfl)) (.inr (.inr rfl)) hab hbc hca)
  refine ⟨?_, ?_, ?_⟩
  · refine Classical.not_forall_not.1 fun hnone => ?_
    exact unordered (signPreorderOn_compare_of_notNumeric hq hrelease hnone)
  · refine Classical.not_forall_not.1 fun hnone => ?_
    exact unordered (signPreorderOn_compare hq hnumber fun _ q hmem => absurd hmem (hnone q))
  · refine Classical.byContradiction fun hnone => ?_
    exact unordered (signPreorderOn_compare hq hnumber fun hmem => absurd hmem hnone)

omit hq hrelease in
/-- A circle around the end of a version runs from a zero over the end to a qualifier. -/
theorem zero_of_circle {a c : Item} {n : Int} {q : Text}
    (hnumber : .numeric n = a ∨ .numeric n = c) (hqualifier : .qualifier q = a ∨ .qualifier q = c)
    (ha : compare order a .releaseMarker ≤ 0) (hca : compare order c a ≤ 0) :
    a = .numeric 0 ∧ c = .qualifier q := by
  rcases hnumber with rfl | rfl
  · have hzero : n = 0 := by
      simp only [compare, compareToMarker] at ha
      split at ha
      next h => exact h
      next => omega
    rcases hqualifier with hq | hq
    · cases hq
    · exact ⟨by rw [hzero], hq.symm⟩
  · rcases hqualifier with rfl | hq
    · exact absurd hca (by simp [compare])
    · cases hq

/-- Three items in a circle that do not all tie are a zero, the end of a version and a qualifier,
in this direction of the circle. -/
theorem heads_of_circle {a b c : Item}
    (hnumber : ∀ n, .numeric n = a ∨ .numeric n = b ∨ .numeric n = c → 0 ≤ n)
    (hab : compare order a b ≤ 0) (hbc : compare order b c ≤ 0) (hca : compare order c a ≤ 0)
    (hne : ¬(compare order a b = 0 ∧ compare order b c = 0 ∧ compare order c a = 0)) :
    ∃ q, (a = .numeric 0 ∧ b = .releaseMarker ∧ c = .qualifier q) ∨
      (b = .numeric 0 ∧ c = .releaseMarker ∧ a = .qualifier q) ∨
      (c = .numeric 0 ∧ a = .releaseMarker ∧ b = .qualifier q) := by
  obtain ⟨⟨n, hn⟩, ⟨q, hqual⟩, hend⟩ := kinds_of_circle hq hrelease hnumber hab hbc hca hne
  refine ⟨q, ?_⟩
  rcases hend with rfl | rfl | rfl
  · have hsides := zero_of_circle (by simpa [or_comm] using hn) (by simpa [or_comm] using hqual)
      hca hbc
    exact .inr (.inr ⟨hsides.1, rfl, hsides.2⟩)
  · have hsides := zero_of_circle (by simpa using hn) (by simpa using hqual) hab hca
    exact .inl ⟨hsides.1, rfl, hsides.2⟩
  · have hsides := zero_of_circle (by simpa [or_comm] using hn) (by simpa [or_comm] using hqual)
      hbc hab
    exact .inr (.inl ⟨hsides.1, rfl, hsides.2⟩)

/-- Written sequences in a circle that do not all tie are a loop, in one of the three ways to go
round. -/
theorem loop_of_circle {left middle right : List Item}
    (hl : ∀ item ∈ left, item.Written) (hm : ∀ item ∈ middle, item.Written)
    (hr : ∀ item ∈ right, item.Written)
    (hlm : compareAll order left middle ≤ 0) (hmr : compareAll order middle right ≤ 0)
    (hrl : compareAll order right left ≤ 0)
    (hne : ¬(compareAll order left middle = 0 ∧ compareAll order middle right = 0 ∧
      compareAll order right left = 0)) :
    Loop order left middle right ∨ Loop order middle right left ∨
      Loop order right left middle := by
  -- All three lose their first items at once, so the induction is on a bound for the lengths.
  obtain ⟨n, hlen⟩ : ∃ n, left.length ≤ n ∧ middle.length ≤ n ∧ right.length ≤ n :=
    ⟨max left.length (max middle.length right.length), by omega⟩
  induction n generalizing left middle right with
  | zero =>
    obtain ⟨el, em, er⟩ := hlen
    rw [List.length_eq_zero_iff.1 (Nat.le_zero.1 el), List.length_eq_zero_iff.1 (Nat.le_zero.1 em),
      List.length_eq_zero_iff.1 (Nat.le_zero.1 er)] at hne
    exact absurd ⟨rfl, rfl, rfl⟩ hne
  | succ n ih =>
    have hab := compare_head_nonpos hlm
    have hbc := compare_head_nonpos hmr
    have hca := compare_head_nonpos hrl
    by_cases htie : compare order (left.head?.getD .releaseMarker)
        (middle.head?.getD .releaseMarker) = 0 ∧
      compare order (middle.head?.getD .releaseMarker) (right.head?.getD .releaseMarker) = 0 ∧
      compare order (right.head?.getD .releaseMarker) (left.head?.getD .releaseMarker) = 0
    · -- The first items tie, so the rests are in a circle as well.
      obtain ⟨tlm, tmr, trl⟩ := htie
      rw [compareAll_of_tie tlm, compareAll_of_tie tmr, compareAll_of_tie trl] at hne
      rw [compareAll_of_tie tlm] at hlm
      rw [compareAll_of_tie tmr] at hmr
      rw [compareAll_of_tie trl] at hrl
      have hrest := ih (fun i hi => hl i (List.mem_of_mem_tail hi))
        (fun i hi => hm i (List.mem_of_mem_tail hi)) (fun i hi => hr i (List.mem_of_mem_tail hi))
        hlm hmr hrl hne (by simp only [List.length_tail]; omega)
      rcases hrest with h | h | h
      · exact .inl (h.of_tail tlm tmr trl)
      · exact .inr (.inl (h.of_tail tmr trl tlm))
      · exact .inr (.inr (h.of_tail trl tlm tmr))
    · -- The first items are in a circle of their own, with the end of a version among them.
      have hnumber : ∀ n, .numeric n = left.head?.getD .releaseMarker ∨
          .numeric n = middle.head?.getD .releaseMarker ∨
          .numeric n = right.head?.getD .releaseMarker → 0 ≤ n := by
        rintro n (h | h | h)
        · exact nonneg_of_head?_getD hl h
        · exact nonneg_of_head?_getD hm h
        · exact nonneg_of_head?_getD hr h
      obtain ⟨q, ⟨h0, h1, h2⟩ | ⟨h0, h1, h2⟩ | ⟨h0, h1, h2⟩⟩ :=
        heads_of_circle hq hrelease hnumber hab hbc hca htie
      · exact .inl (.of_heads hm h0 h1 h2 hlm hmr)
      · exact .inr (.inl (.of_heads hr h0 h1 h2 hmr hrl))
      · exact .inr (.inr (.of_heads hl h0 h1 h2 hrl hlm))

end Circle

end Item

end VersionOrder
