import VersionOrder.Sorting.Search

/-!
# Searching counts

Where the elements that pass a test stand before those that do not, each of the searches counts the
passing ones, whatever strides it makes. The count is where a list falls into the two kinds.
-/

namespace VersionOrder

namespace Sorting

variable {α : Type} {p : α → Bool} {xs ys : List α} {a : α}

/-- The elements that pass a test stand before those that do not. -/
def PassFirst (p : α → Bool) (xs : List α) : Prop :=
  xs.Pairwise fun a b => p b = true → p a = true

theorem PassFirst.sublist (h : PassFirst p xs) (hsub : ys.Sublist xs) : PassFirst p ys :=
  List.Pairwise.sublist hsub h

/-- From the back, what does not pass stands first. -/
theorem PassFirst.reverse (h : PassFirst p xs) : PassFirst (fun x => !p x) xs.reverse := by
  refine List.pairwise_reverse.2 (h.imp ?_)
  intro a b hab hna
  simp only [Bool.not_eq_true'] at hna ⊢
  cases hb : p b with
  | false => rfl
  | true => exact (hab hb).symm.trans hna

/-- Nothing passes from an element on that does not. -/
theorem PassFirst.forall_of_fail (h : PassFirst p (a :: xs)) (ha : p a = false) :
    ∀ x ∈ a :: xs, p x = false := by
  rw [List.forall_mem_cons]
  refine ⟨ha, ?_⟩
  intro x hx
  have hback := (List.pairwise_cons.1 h).1 x hx
  cases hpass : p x with
  | false => rfl
  | true => exact (hback hpass).symm.trans ha

theorem PassFirst.countP_cons_of_fail (h : PassFirst p (a :: xs)) (ha : p a = false) :
    (a :: xs).countP p = 0 := by
  rw [List.countP_eq_zero]
  intro x hx
  simp [h.forall_of_fail ha x hx]

/-- An element in the middle that passes is counted with everything before it. -/
theorem PassFirst.countP_of_pass (h : PassFirst p (xs ++ a :: ys)) (ha : p a = true) :
    (xs ++ a :: ys).countP p = xs.length + 1 + ys.countP p := by
  have hall : xs.countP p = xs.length := by
    rw [List.countP_eq_length]
    intro x hx
    exact (List.pairwise_append.1 h).2.2 x hx a List.mem_cons_self ha
  rw [List.countP_append, List.countP_cons, hall, if_pos ha]
  omega

/-- An element in the middle that does not pass ends the count. -/
theorem PassFirst.countP_of_fail (h : PassFirst p (xs ++ a :: ys)) (ha : p a = false) :
    (xs ++ a :: ys).countP p = xs.countP p := by
  have htail : PassFirst p (a :: ys) := (List.pairwise_append.1 h).2.1
  rw [List.countP_append, htail.countP_cons_of_fail ha, Nat.add_zero]

theorem PassFirst.forall_take (h : PassFirst p xs) : ∀ x ∈ xs.take (xs.countP p), p x = true := by
  induction xs with
  | nil => simp
  | cons a rest ih =>
    cases ha : p a with
    | true =>
      have hrest := ih (h.sublist (List.sublist_cons_self a rest))
      simpa [ha] using hrest
    | false => simp [h.countP_cons_of_fail ha]

theorem PassFirst.forall_drop (h : PassFirst p xs) : ∀ x ∈ xs.drop (xs.countP p), p x = false := by
  induction xs with
  | nil => simp
  | cons a rest ih =>
    cases ha : p a with
    | true =>
      have hrest := ih (h.sublist (List.sublist_cons_self a rest))
      simpa [ha] using hrest
    | false =>
      rw [h.countP_cons_of_fail ha, List.drop_zero]
      exact h.forall_of_fail ha

/-- A place in a list cuts it around the element there. -/
theorem exists_of_drop_eq_cons {n : Nat} (h : xs.drop n = a :: ys) :
    ∃ lower, xs = lower ++ a :: ys ∧ xs.take n = lower ∧ lower.length = n := by
  refine ⟨xs.take n, ?_, rfl, ?_⟩
  · rw [← h, List.take_append_drop]
  · have hlen := congrArg List.length h
    simp only [List.length_drop, List.length_cons] at hlen
    rw [List.length_take]
    omega

section Monadic

variable {m : Type → Type} [Monad m] [LawfulMonad m] {test : α → m Bool} (late : Bool)

theorem bisect_eq (h : PassFirst p xs) (htest : ∀ x ∈ xs, test x = pure (p x)) :
    bisect late test xs = pure (xs.countP p) := by
  fun_induction bisect late test xs with
  | case1 xs hdrop =>
    have hle := List.drop_eq_nil_iff.1 hdrop
    have hempty : xs = [] := by
      rcases Nat.eq_zero_or_pos xs.length with hzero | hpos
      · exact List.length_eq_zero_iff.1 hzero
      · have hlt := halfway_lt late hpos
        omega
    simp [hempty]
  | case2 xs middle upper hdrop ihUpper ihLower =>
    obtain ⟨lower, hxs, htake, hlen⟩ := exists_of_drop_eq_cons hdrop
    rw [htake] at ihLower ⊢
    rw [← hlen]
    subst hxs
    rw [htest middle (by simp), pure_bind]
    cases hpass : p middle with
    | true =>
      have hupper : upper.Sublist (lower ++ middle :: upper) := by simp
      rw [if_pos rfl, ihUpper (h.sublist hupper) fun x hx => htest x (hupper.subset hx), pure_bind,
        h.countP_of_pass hpass]
    | false =>
      have hlower : lower.Sublist (lower ++ middle :: upper) := by simp
      rw [if_neg Bool.false_ne_true, ihLower (h.sublist hlower) fun x hx =>
        htest x (hlower.subset hx), h.countP_of_fail hpass]

/-- Strides that double miss nothing: what they pass over has passed. -/
theorem stride_eq {passed : Nat} (hpassed : 0 < passed) (h : PassFirst p xs)
    (htest : ∀ x ∈ xs, test x = pure (p x)) :
    stride late test passed xs = pure (passed + xs.countP p) := by
  fun_induction stride late test passed xs with
  | case1 passed xs hdrop => rw [bisect_eq late h htest, pure_bind]
  | case2 passed xs next further hdrop ih =>
    obtain ⟨lower, hxs, htake, hlen⟩ := exists_of_drop_eq_cons hdrop
    rw [htake]
    subst hxs
    rw [htest next (by simp), pure_bind]
    cases hpass : p next with
    | true =>
      have hfurther : further.Sublist (lower ++ next :: further) := by simp
      rw [if_pos rfl, ih (by omega) (h.sublist hfurther) fun x hx => htest x (hfurther.subset hx),
        h.countP_of_pass hpass]
      congr 1
      omega
    | false =>
      have hlower : lower.Sublist (lower ++ next :: further) := by simp
      rw [if_neg Bool.false_ne_true, bisect_eq late (h.sublist hlower) fun x hx =>
        htest x (hlower.subset hx), pure_bind, h.countP_of_fail hpass]

theorem leading_eq (h : PassFirst p xs) (htest : ∀ x ∈ xs, test x = pure (p x)) :
    leading late test xs = pure (xs.countP p) := by
  cases xs with
  | nil => simp [leading]
  | cons first rest =>
    rw [leading, htest first List.mem_cons_self, pure_bind]
    cases hfirst : p first with
    | true =>
      have hrest := h.sublist (List.sublist_cons_self first rest)
      rw [if_pos rfl, stride_eq late Nat.one_pos hrest fun x hx =>
        htest x (List.mem_cons_of_mem first hx), List.countP_cons_of_pos hfirst, Nat.add_comm]
    | false => rw [if_neg Bool.false_ne_true, h.countP_cons_of_fail hfirst]

end Monadic

end Sorting

end VersionOrder
