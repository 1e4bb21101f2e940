import VersionOrder.Proofs.Preorder
import VersionOrder.Proofs.Sorting.Merging
import VersionOrder.Sorting

/-!
# Merging in order

Over a total preorder, merging two sorted lists by strides sorts them, and elements that tie keep
their order. What a test answers beyond the given values does not matter, and of an answer only the
sign does.

## Main definitions

- `Sorting.Ascending`: lists in ascending order
- `Sorting.Rearranged`: lists with the same elements, ties in the same order
- `Sorting.SortedFrom`: the list in ascending order among them
- `Sorting.Tests`: a test that tells which of two elements comes first
-/

namespace VersionOrder

namespace Sorting

variable {α : Type} {answer : α → α → Int} {values : α → Prop} {xs ys zs left right : List α}

/-- The elements are among the given values, and none comes after one that stands behind it. -/
structure Ascending (answer : α → α → Int) (values : α → Prop) (xs : List α) : Prop where
  within : ∀ a ∈ xs, values a
  pairwise : xs.Pairwise fun a b => answer a b ≤ 0

theorem Ascending.sublist (h : Ascending answer values xs) (hsub : ys.Sublist xs) :
    Ascending answer values ys :=
  ⟨fun a ha => h.within a (hsub.subset ha), h.pairwise.sublist hsub⟩

/-- Whether one element may stand before another, as the tests of sorting tell. -/
def mayPrecede (answer : α → α → Int) (a b : α) : Bool :=
  !decide (answer b a < 0)

/-- The elements are the same, and those that tie with a value stand in the same order. -/
structure Rearranged (answer : α → α → Int) (values : α → Prop) (xs ys : List α) : Prop where
  perm : ys.Perm xs
  ties : ∀ t, values t →
    ys.filter (fun a => answer t a = 0) = xs.filter fun a => answer t a = 0

/-- The second list is the first one in ascending order, ties in their given order. -/
structure SortedFrom (answer : α → α → Int) (values : α → Prop) (xs ys : List α) : Prop where
  ascending : Ascending answer values ys
  rearranged : Rearranged answer values xs ys

/-- On the given values, a test tells which of two elements comes strictly first. -/
def Tests {m : Type → Type} [Monad m] (before : α → α → m Bool) (answer : α → α → Int)
    (values : α → Prop) : Prop :=
  ∀ a b, values a → values b → before a b = pure (decide (answer a b < 0))

/-- Turned, the test tells which of two elements may stand before the other. -/
theorem Tests.not_eq {m : Type → Type} [Monad m] [LawfulMonad m] {before : α → α → m Bool}
    (h : Tests before answer values) {a b : α} (ha : values a) (hb : values b) :
    (do return !(← before b a)) = (pure (mayPrecede answer a b) : m Bool) := by
  rw [h b a hb ha, pure_bind]
  rfl

/-! ## Merging in order -/

section Order

variable (h : SignPreorderOn answer values)

include h

theorem mayPrecede_iff {a b : α} (ha : values a) (hb : values b) :
    mayPrecede answer a b = true ↔ answer a b ≤ 0 := by
  have hswap := h.pos_iff ha hb
  simp only [mayPrecede, Bool.not_eq_true', decide_eq_false_iff_not]
  omega

theorem mayPrecede_eq_false_iff {a b : α} (ha : values a) (hb : values b) :
    mayPrecede answer a b = false ↔ 0 < answer a b := by
  have htrue := mayPrecede_iff h ha hb
  rw [← Bool.not_eq_true, htrue]
  omega

theorem passFirst_mayPrecede (hxs : Ascending answer values xs) {b : α} (hb : values b) :
    PassFirst (fun a => mayPrecede answer a b) xs := by
  refine hxs.pairwise.imp_of_mem ?_
  intro a c ha hc hac hcb
  rw [mayPrecede_iff h (hxs.within c hc) hb] at hcb
  rw [mayPrecede_iff h (hxs.within a ha) hb]
  exact h.trans (hxs.within a ha) (hxs.within c hc) hb hac hcb

theorem passFirst_not_mayPrecede (hxs : Ascending answer values xs) {b : α} (hb : values b) :
    PassFirst (fun a => !mayPrecede answer b a) xs := by
  refine hxs.pairwise.imp_of_mem ?_
  intro a c ha hc hac hbc
  rw [Bool.not_eq_true', mayPrecede_eq_false_iff h hb (hxs.within c hc)] at hbc
  rw [Bool.not_eq_true', mayPrecede_eq_false_iff h hb (hxs.within a ha)]
  have hcb := (h.pos_iff hb (hxs.within c hc)).1 hbc
  exact (h.pos_iff hb (hxs.within a ha)).2
    (h.neg_of_nonpos_of_neg (hxs.within a ha) (hxs.within c hc) hb hac hcb)

theorem parted_of_ascending (hleft : Ascending answer values left)
    (hright : Ascending answer values right) : Parted (mayPrecede answer) left right where
  lefts b hb := passFirst_mayPrecede h hleft (hright.within b hb)
  rights a ha := passFirst_not_mayPrecede h hright (hleft.within a ha)

/-- What the last element on the left may precede comes last of all. -/
theorem merge_trimHigh {last : α} (hleft : Ascending answer values left)
    (hright : Ascending answer values right) (hlast : left.getLast? = some last) :
    let above := right.reverse.countP fun y => mayPrecede answer last y
    left.merge right (mayPrecede answer) =
        left.merge (right.take (right.length - above)) (mayPrecede answer) ++
          right.drop (right.length - above) ∧
      ∀ y ∈ right.take (right.length - above), mayPrecede answer last y = false := by
  intro above
  obtain ⟨init, rfl⟩ := List.getLast?_eq_some_iff.1 hlast
  have hvalue := hleft.within last (by simp)
  have hparts : PassFirst (fun y => mayPrecede answer last y) right.reverse := by
    simpa using (passFirst_not_mayPrecede h hright hvalue).reverse
  constructor
  · have hhigh : ∀ y ∈ right.drop (right.length - above), ∀ x ∈ init ++ [last],
        mayPrecede answer x y = true := by
      intro y hy x hx
      have hmem := List.mem_of_mem_drop hy
      rw [← List.mem_reverse, ← List.take_reverse] at hy
      have hly := (mayPrecede_iff h hvalue (hright.within y hmem)).1 (hparts.forall_take y hy)
      rw [mayPrecede_iff h (hleft.within x hx) (hright.within y hmem)]
      rcases List.mem_append.1 hx with hinit | hx
      · have hxl := (List.pairwise_append.1 hleft.pairwise).2.2 x hinit last (by simp)
        exact h.trans (hleft.within x hx) hvalue (hright.within y hmem) hxl hly
      · rw [List.mem_singleton] at hx
        exact hx ▸ hly
    rw [← merge_append_high_right hhigh, List.take_append_drop]
  · intro y hy
    rw [← List.mem_reverse, ← List.drop_reverse] at hy
    exact hparts.forall_drop y hy

section Monadic

variable {m : Type → Type} [Monad m] [LawfulMonad m] {before : α → α → m Bool}
  (hbefore : Tests before answer values)

include hbefore

/-- Behind the first element on the right, which comes before all on the left, the merge may start
at the front. -/
theorem mergeForward_eq {y : α} (hleft : Ascending answer values left)
    (hright : Ascending answer values (y :: ys))
    (hfirst : ∀ x ∈ left, mayPrecede answer x y = false)
    (hlast : ∀ x ∈ left.getLast?, ∀ z ∈ y :: ys, mayPrecede answer x z = false) (patience : Nat) :
    ∃ merged later,
      mergeFrom (fun a b => do return !(← before b a)) true (.single 0 0) patience left ys =
          pure (merged, later) ∧
        y :: merged = left.merge (y :: ys) (mayPrecede answer) := by
  have htail := hright.sublist (List.sublist_cons_self y ys)
  have hend : EndsWith (mayPrecede answer) true left ys :=
    fun x hx z hz => hlast x hx z (List.mem_cons_of_mem y hz)
  have htest := fun a ha b hb => hbefore.not_eq (hleft.within a ha) (htail.within b hb)
  have hparts := parted_of_ascending h hleft htail
  obtain ⟨later, hmerge⟩ := merges hparts hend htest (.single 0 0) patience
  refine ⟨_, later, hmerge, ?_⟩
  have hcut : ∀ z ∈ [y], ∀ x ∈ left, mayPrecede answer x z = false := by simpa using hfirst
  exact (merge_append_low_right hcut).symm

/-- Before the last element on the left, which comes after all on the right, the merge may start at
the back. -/
theorem mergeBackward_eq {x : α} (hleft : Ascending answer values (left ++ [x]))
    (hright : Ascending answer values right) (hlast : ∀ y ∈ right, mayPrecede answer x y = false)
    (hfirst : ∀ y ∈ right.head?, ∀ z ∈ left, mayPrecede answer z y = false) (patience : Nat) :
    ∃ merged later,
      mergeFrom (fun a b => before b a) false (.single 0 0) patience left.reverse right.reverse =
          pure (merged, later) ∧
        (x :: merged).reverse = (left ++ [x]).merge right (mayPrecede answer) := by
  have hinit := hleft.sublist (List.sublist_append_left left [x])
  have hparts := parted_of_ascending h hinit hright
  have hend : EndsWith (fun a b => !mayPrecede answer a b) false left.reverse right.reverse := by
    intro y hy z hz
    rw [List.getLast?_reverse] at hy
    simp [hfirst y hy z (List.mem_reverse.1 hz)]
  have htest : ∀ a ∈ left.reverse, ∀ b ∈ right.reverse,
      before b a = pure (!mayPrecede answer a b) := by
    intro a ha b hb
    rw [hbefore b a (hright.within b (List.mem_reverse.1 hb))
      (hinit.within a (List.mem_reverse.1 ha))]
    simp [mayPrecede]
  obtain ⟨later, hmerge⟩ := merges hparts.reverse hend htest (.single 0 0) patience
  refine ⟨_, later, hmerge, ?_⟩
  have hcut : ∀ z ∈ [x], ∀ y ∈ right, mayPrecede answer z y = false := by simpa using hlast
  rw [hparts.merge_reverse, List.reverse_cons, List.reverse_reverse, merge_append_high_left hcut]

/-- Merging two sorted lists by strides gives their plain merge. -/
theorem merge_eq (hleft : Ascending answer values left) (hright : Ascending answer values right)
    (patience : Nat) : ∃ later,
      merge before patience left right = pure (left.merge right (mayPrecede answer), later) := by
  cases right with
  | nil => exact ⟨patience, by simp [merge]⟩
  | cons first others =>
    have hfirst := hright.within first List.mem_cons_self
    have hlow := fun x hx => hbefore.not_eq (hleft.within x hx) hfirst
    have hparts := parted_of_ascending h hleft hright
    have hcut := hparts.lefts first List.mem_cons_self
    -- What the right list may not precede is set aside at the front ..
    rw [merge, leading_eq true hcut hlow, pure_bind, hparts.merge_strideLeft.1]
    have hlower := hcut.forall_drop
    generalize left.countP (fun x => mayPrecede answer x first) = below at hlower
    have hrest := hleft.sublist (List.drop_sublist below left)
    generalize left.drop below = rest at hlower hrest
    dsimp only
    cases hlast : rest.getLast? with
    | none =>
      rw [List.getLast?_eq_none_iff] at hlast
      exact ⟨patience, by simp [hlast]⟩
    | some last =>
      -- .. and what the left list may precede at the back.
      have hvalue : values last := hrest.within last (List.mem_of_getLast? hlast)
      have hhigh := fun y hy => hbefore.not_eq hvalue (hright.within y (List.mem_reverse.1 hy))
      have hback : PassFirst (fun y => mayPrecede answer last y) (first :: others).reverse := by
        simpa using (passFirst_not_mayPrecede h hright hvalue).reverse
      obtain ⟨htrim, hupper⟩ := merge_trimHigh h hrest hright hlast
      dsimp only
      rw [leading_eq false hback hhigh, pure_bind, htrim]
      generalize (first :: others).length - (first :: others).reverse.countP
        (fun y => mayPrecede answer last y) = kept at hupper
      have hkept := hright.sublist (List.take_sublist kept (first :: others))
      have hhead : ∀ y ∈ ((first :: others).take kept).head?, y = first := by
        intro y hy
        cases kept with
        | zero => cases hy
        | succ kept => simpa using hy.symm
      generalize (first :: others).take kept = trimmed at hupper hkept hhead
      obtain ⟨init, rfl⟩ := List.getLast?_eq_some_iff.1 hlast
      cases trimmed with
      | nil => exact ⟨patience, by simp⟩
      | cons y ys =>
        obtain rfl := hhead y (by simp)
        simp only [List.reverse_append, List.reverse_cons, List.reverse_nil, List.nil_append,
          List.singleton_append]
        split
        · obtain ⟨merged, later, hmerge, hresult⟩ := mergeForward_eq h hbefore hrest hkept hlower
            (by simpa using hupper) patience
          refine ⟨later, ?_⟩
          rw [hmerge, pure_bind, ← hresult]
          simp only [List.append_assoc, List.cons_append]
        · have hfirst : ∀ z ∈ (y :: ys).head?, ∀ x ∈ init, mayPrecede answer x z = false := by
            intro z hz x hx
            obtain rfl : y = z := by simpa using hz
            exact hlower x (List.mem_append_left _ hx)
          obtain ⟨merged, later, hmerge, hresult⟩ :=
            mergeBackward_eq h hbefore hrest hkept hupper hfirst patience
          rw [List.reverse_cons] at hmerge
          refine ⟨later, ?_⟩
          rw [hmerge, pure_bind, ← hresult]
          simp only [List.reverse_cons, List.append_assoc]

end Monadic

/-! ## Rearranging -/

omit h in
theorem Rearranged.refl (xs : List α) : Rearranged answer values xs xs :=
  ⟨List.Perm.refl xs, fun _ _ => rfl⟩

omit h in
theorem Rearranged.trans (hxy : Rearranged answer values xs ys)
    (hyz : Rearranged answer values ys zs) : Rearranged answer values xs zs :=
  ⟨hyz.perm.trans hxy.perm, fun t ht => (hyz.ties t ht).trans (hxy.ties t ht)⟩

omit h in
theorem Rearranged.append {us vs : List α} (hxy : Rearranged answer values xs ys)
    (huv : Rearranged answer values us vs) : Rearranged answer values (xs ++ us) (ys ++ vs) where
  perm := hxy.perm.append huv.perm
  ties t ht := by rw [List.filter_append, List.filter_append, hxy.ties t ht, huv.ties t ht]

/-- Where the first element on the left comes first, it comes before all on the right. -/
theorem le_of_leads {x : α} (hleft : Ascending answer values (x :: left))
    (hright : Ascending answer values right) {y : α} (hy : right.head? = some y)
    (hxy : mayPrecede answer x y = true) : ∀ b ∈ right, answer x b ≤ 0 := by
  obtain ⟨rest, rfl⟩ := List.head?_eq_some_iff.1 hy
  intro b hb
  have hparts := (parted_of_ascending h hleft hright).rights x List.mem_cons_self
  have hall := hparts.forall_of_fail (by simp [hxy]) b hb
  have hx := hleft.within x List.mem_cons_self
  exact (mayPrecede_iff h hx (hright.within b hb)).1 (by simpa using hall)

/-- Where the first element on the right comes first, all on the left comes after it. -/
theorem pos_of_not_leads {y : α} (hleft : Ascending answer values left)
    (hright : Ascending answer values (y :: right)) {x : α} (hx : left.head? = some x)
    (hxy : mayPrecede answer x y = false) : ∀ a ∈ left, 0 < answer a y := by
  obtain ⟨rest, rfl⟩ := List.head?_eq_some_iff.1 hx
  intro a ha
  have hparts := (parted_of_ascending h hleft hright).lefts y List.mem_cons_self
  have hy := hright.within y List.mem_cons_self
  exact (mayPrecede_eq_false_iff h (hleft.within a ha) hy).1 (hparts.forall_of_fail hxy a ha)

/-- The plain merge keeps ties in order: those of the left list come first. -/
theorem filter_merge (hleft : Ascending answer values left) (hright : Ascending answer values right)
    {t : α} (ht : values t) :
    (left.merge right (mayPrecede answer)).filter (fun a => answer t a = 0) =
      (left ++ right).filter fun a => answer t a = 0 := by
  induction left generalizing right with
  | nil => simp
  | cons x left ihLeft =>
    induction right with
    | nil => simp
    | cons y right ihRight =>
      rw [List.cons_merge_cons]
      cases hxy : mayPrecede answer x y with
      | true =>
        have hrest := ihLeft (hleft.sublist (List.sublist_cons_self x left)) hright
        rw [if_pos rfl, List.cons_append, List.filter_cons, List.filter_cons, hrest]
      | false =>
        have hrest := ihRight (hright.sublist (List.sublist_cons_self y right))
        rw [if_neg Bool.false_ne_true, List.filter_cons, hrest, List.filter_append,
          List.filter_append]
        by_cases hty : answer t y = 0
        · have hy := hright.within y List.mem_cons_self
          have hafter := pos_of_not_leads h hleft hright rfl hxy
          -- Nothing that comes after this element ties with it.
          have hnone : (x :: left).filter (fun a => answer t a = 0) = [] := by
            rw [List.filter_eq_nil_iff]
            intro a ha htie
            rw [decide_eq_true_eq] at htie
            have hva := hleft.within a ha
            have hay := h.eq_zero_trans hva ht hy ((h.eq_zero_iff ht hva).1 htie) hty
            have hpos := hafter a ha
            omega
          rw [hnone, if_pos (by simpa using hty), List.filter_cons_of_pos (by simpa using hty)]
          rfl
        · have hskip : (y :: right).filter (fun a => answer t a = 0) =
              right.filter fun a => answer t a = 0 := List.filter_cons_of_neg (by simpa using hty)
          rw [hskip, if_neg (by simpa using hty)]

theorem ascending_merge (hleft : Ascending answer values left)
    (hright : Ascending answer values right) :
    Ascending answer values (left.merge right (mayPrecede answer)) := by
  constructor
  · intro a ha
    exact (List.mem_merge.1 ha).elim (hleft.within a) (hright.within a)
  · induction left generalizing right with
    | nil => simpa using hright.pairwise
    | cons x left ihLeft =>
      induction right with
      | nil => simpa using hleft.pairwise
      | cons y right ihRight =>
        rw [List.cons_merge_cons]
        cases hxy : mayPrecede answer x y with
        | true =>
          have hrest := ihLeft (hleft.sublist (List.sublist_cons_self x left)) hright
          rw [if_pos rfl, List.pairwise_cons]
          refine ⟨?_, hrest⟩
          intro a ha
          rcases List.mem_merge.1 ha with hmem | hmem
          · exact (List.pairwise_cons.1 hleft.pairwise).1 a hmem
          · exact le_of_leads h hleft hright rfl hxy a hmem
        | false =>
          have hy := hright.within y List.mem_cons_self
          have hrest := ihRight (hright.sublist (List.sublist_cons_self y right))
          rw [if_neg Bool.false_ne_true, List.pairwise_cons]
          refine ⟨?_, hrest⟩
          intro a ha
          rcases List.mem_merge.1 ha with hmem | hmem
          · have hpos := pos_of_not_leads h hleft hright rfl hxy a hmem
            exact Int.le_of_lt ((h.pos_iff (hleft.within a hmem) hy).1 hpos)
          · exact (List.pairwise_cons.1 hright.pairwise).1 a hmem

/-- Merging sorts two sorted lists. -/
theorem sortedFrom_merge (hleft : Ascending answer values left)
    (hright : Ascending answer values right) :
    SortedFrom answer values (left ++ right) (left.merge right (mayPrecede answer)) where
  ascending := ascending_merge h hleft hright
  rearranged := ⟨List.merge_perm_append _, fun _ ht => filter_merge h hleft hright ht⟩

end Order

end Sorting

end VersionOrder
