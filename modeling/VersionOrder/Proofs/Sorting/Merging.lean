import VersionOrder.Proofs.Sorting.Search
import VersionOrder.Sorting.Merge

/-!
# Merging by strides

Whatever pace a merge goes at, and whichever end it starts from, it gives the plain merge that takes
the lists element by element. This needs no order: it is enough that each test falls into two parts
along either list, and that the element set aside for the end does come last.

## Main definitions

- `Sorting.Mergeable`: what a merge asks of its two lists
-/

namespace VersionOrder

namespace Sorting

variable {α : Type} {leads : α → α → Bool} {left right low high : List α}

/-! ## The plain merge -/

theorem merge_append_low_left (h : ∀ x ∈ low, ∀ y ∈ right, leads x y = true) :
    (low ++ left).merge right leads = low ++ left.merge right leads := by
  induction low with
  | nil => rfl
  | cons x low ih =>
    have hlow := ih fun z hz => h z (List.mem_cons_of_mem x hz)
    cases right with
    | nil => simp
    | cons y right =>
      have hx := h x List.mem_cons_self y List.mem_cons_self
      rw [List.cons_append, List.cons_merge_cons, if_pos hx, hlow, List.cons_append]

theorem merge_append_low_right (h : ∀ y ∈ low, ∀ x ∈ left, leads x y = false) :
    left.merge (low ++ right) leads = low ++ left.merge right leads := by
  induction low with
  | nil => rfl
  | cons y low ih =>
    have hlow := ih fun z hz => h z (List.mem_cons_of_mem y hz)
    cases left with
    | nil => simp
    | cons x left =>
      have hy := h y List.mem_cons_self x List.mem_cons_self
      rw [List.cons_append, List.cons_merge_cons, if_neg (by simp [hy]), hlow, List.cons_append]

theorem merge_append_high_left (h : ∀ x ∈ high, ∀ y ∈ right, leads x y = false) :
    (left ++ high).merge right leads = left.merge right leads ++ high := by
  induction left generalizing right with
  | nil =>
    have hlast : high.merge (right ++ []) leads = right ++ high.merge [] leads :=
      merge_append_low_right fun y hy x hx => h x hx y hy
    simpa using hlast
  | cons x left ihLeft =>
    induction right with
    | nil => simp
    | cons y right ihRight =>
      have hrest := ihRight fun z hz w hw => h z hz w (List.mem_cons_of_mem y hw)
      rw [List.cons_append, List.cons_merge_cons, List.cons_merge_cons]
      split
      · rw [ihLeft h, List.cons_append]
      · rw [← List.cons_append, hrest, List.cons_append]

theorem merge_append_high_right (h : ∀ y ∈ high, ∀ x ∈ left, leads x y = true) :
    left.merge (right ++ high) leads = left.merge right leads ++ high := by
  induction right generalizing left with
  | nil =>
    have hlast : (left ++ []).merge high leads = left ++ [].merge high leads :=
      merge_append_low_left fun x hx y hy => h y hy x hx
    simpa using hlast
  | cons y right ihRight =>
    induction left with
    | nil => simp
    | cons x left ihLeft =>
      have hrest := ihLeft fun z hz w hw => h z hz w (List.mem_cons_of_mem x hw)
      rw [List.cons_append, List.cons_merge_cons, List.cons_merge_cons]
      split
      · rw [← List.cons_append, hrest, List.cons_append]
      · rw [ihRight h, List.cons_append]

/-! ## What a merge asks of its lists -/

/-- Each test between two lists falls into two parts along either of them. -/
structure Parted (leads : α → α → Bool) (left right : List α) : Prop where
  lefts : ∀ y ∈ right, PassFirst (fun x => leads x y) left
  rights : ∀ x ∈ left, PassFirst (fun y => !leads x y) right

theorem Parted.suffix {laterLeft laterRight : List α} (h : Parted leads left right)
    (hleft : laterLeft <:+ left) (hright : laterRight <:+ right) :
    Parted leads laterLeft laterRight where
  lefts y hy := (h.lefts y (hright.subset hy)).sublist hleft.sublist
  rights x hx := (h.rights x (hleft.subset hx)).sublist hright.sublist

theorem Parted.reverse (h : Parted leads left right) :
    Parted (fun x y => !leads x y) left.reverse right.reverse where
  lefts y hy := (h.lefts y (List.mem_reverse.1 hy)).reverse
  rights x hx := (h.rights x (List.mem_reverse.1 hx)).reverse

/-- A merge from the back, with all decisions turned, is the merge turned round. -/
theorem Parted.merge_reverse (h : Parted leads left right) :
    left.reverse.merge right.reverse (fun x y => !leads x y) =
      (left.merge right leads).reverse := by
  induction left generalizing right with
  | nil => simp
  | cons x left ihLeft =>
    induction right with
    | nil => simp
    | cons y right ihRight =>
      rw [List.cons_merge_cons]
      cases hxy : leads x y with
      | true =>
        -- Nothing on the right comes before the first element on the left, so that element ends the
        -- merge from the back.
        have hafter := (h.rights x List.mem_cons_self).forall_of_fail (by simp [hxy])
        have hrest := ihLeft (h.suffix (List.suffix_cons x left) (List.suffix_refl _))
        rw [if_pos rfl, List.reverse_cons (a := x), List.reverse_cons (a := x), ← hrest]
        apply merge_append_high_left
        intro z hz w hw
        rw [List.mem_singleton] at hz
        exact hz ▸ hafter w (List.mem_reverse.1 hw)
      | false =>
        have hafter := (h.lefts y List.mem_cons_self).forall_of_fail hxy
        have hrest := ihRight (h.suffix (List.suffix_refl _) (List.suffix_cons y right))
        rw [if_neg Bool.false_ne_true, List.reverse_cons (a := y), List.reverse_cons (a := y),
          ← hrest]
        apply merge_append_high_right
        intro z hz w hw
        rw [List.mem_singleton] at hz
        simp [hz, hafter w (List.mem_reverse.1 hw)]

section Stride

variable {x y : α} {xs ys : List α}

/-- What leads the first element on the right comes first, then that element. -/
theorem Parted.merge_strideLeft (h : Parted leads left (y :: ys)) :
    let taken := left.countP fun x => leads x y
    left.merge (y :: ys) leads = left.take taken ++ (left.drop taken).merge (y :: ys) leads ∧
      (left.drop taken).merge (y :: ys) leads = y :: (left.drop taken).merge ys leads := by
  intro taken
  have hparts := h.lefts y List.mem_cons_self
  constructor
  · have hfirst : ∀ x ∈ left.take taken, ∀ z ∈ y :: ys, leads x z = true := by
      intro x hx z hz
      have hlead : leads x y = true := hparts.forall_take x hx
      have hall := (h.rights x (List.mem_of_mem_take hx)).forall_of_fail (by simp [hlead])
      simpa using hall z hz
    rw [← merge_append_low_left hfirst, List.take_append_drop]
  · have hnext : ∀ z ∈ [y], ∀ x ∈ left.drop taken, leads x z = false := by
      intro z hz x hx
      rw [List.mem_singleton] at hz
      exact hz ▸ hparts.forall_drop x hx
    exact merge_append_low_right hnext

/-- What the first element on the left does not lead comes first, then that element. -/
theorem Parted.merge_strideRight (h : Parted leads (x :: xs) right) :
    let taken := right.countP fun y => !leads x y
    (x :: xs).merge right leads = right.take taken ++ (x :: xs).merge (right.drop taken) leads ∧
      (x :: xs).merge (right.drop taken) leads = x :: xs.merge (right.drop taken) leads := by
  intro taken
  have hparts := h.rights x List.mem_cons_self
  constructor
  · have hfirst : ∀ y ∈ right.take taken, ∀ z ∈ x :: xs, leads z y = false := by
      intro y hy z hz
      have hfollow : (!leads x y) = true := hparts.forall_take y hy
      exact (h.lefts y (List.mem_of_mem_take hy)).forall_of_fail (by simpa using hfollow) z hz
    rw [← merge_append_low_right hfirst, List.take_append_drop]
  · have hnext : ∀ z ∈ [x], ∀ y ∈ right.drop taken, leads z y = true := by
      intro z hz y hy
      rw [List.mem_singleton] at hz
      have hlead := hparts.forall_drop y hy
      simpa [hz] using hlead
    exact merge_append_low_left hnext

end Stride

/-- The last element of the list that is used up first comes last of all. -/
def EndsWith (leads : α → α → Bool) (forward : Bool) (left right : List α) : Prop :=
  if forward then ∀ x ∈ left.getLast?, ∀ y ∈ right, leads x y = false
  else ∀ y ∈ right.getLast?, ∀ x ∈ left, leads x y = true

theorem getLast?_of_suffix {xs ys : List α} {a : α} (h : ys <:+ xs) (ha : a ∈ ys.getLast?) :
    a ∈ xs.getLast? := by
  obtain ⟨front, rfl⟩ := h
  obtain ⟨init, rfl⟩ := List.getLast?_eq_some_iff.1 ha
  simp

variable {forward : Bool}

theorem EndsWith.suffix {laterLeft laterRight : List α} (h : EndsWith leads forward left right)
    (hleft : laterLeft <:+ left) (hright : laterRight <:+ right) :
    EndsWith leads forward laterLeft laterRight := by
  unfold EndsWith at h ⊢
  cases forward with
  | true => exact fun x hx y hy => h x (getLast?_of_suffix hleft hx) y (hright.subset hy)
  | false => exact fun y hy x hx => h y (getLast?_of_suffix hright hy) x (hleft.subset hx)

/-- What remains without comparisons is what comparing would give. -/
theorem EndsWith.eq_of_remainder? {rest : List α} (h : EndsWith leads forward left right)
    (hrest : remainder? forward left right = some rest) : rest = left.merge right leads := by
  unfold remainder? at hrest
  split at hrest
  · cases hrest
    simp
  · cases hrest
    simp
  next last _ =>
    cases hrest
    have hlast : ∀ x ∈ [last], ∀ y ∈ right, leads x y = false := by simpa [EndsWith] using h
    have hmerge : ([] ++ [last]).merge right leads = [].merge right leads ++ [last] :=
      merge_append_high_left hlast
    simpa using hmerge.symm
  · cases hrest
    simp
  · cases hrest
    simp
  next last _ =>
    cases hrest
    have hlast : ∀ y ∈ [last], ∀ x ∈ left, leads x y = true := by simpa [EndsWith] using h
    have hmerge : left.merge ([] ++ [last]) leads = left.merge [] leads ++ [last] :=
      merge_append_high_right hlast
    simpa using hmerge.symm
  · cases hrest

theorem exists_cons_of_remainder?_eq_none (h : remainder? forward left right = none) :
    ∃ x xs y ys, left = x :: xs ∧ right = y :: ys := by
  cases left with
  | nil => cases forward <;> cases right <;> cases h
  | cons x xs =>
    cases right with
    | nil => cases forward <;> cases h
    | cons y ys => exact ⟨x, xs, y, ys, rfl, rfl⟩

/-! ## Merging by strides -/

section Monadic

variable {m : Type → Type} [Monad m] {test : α → α → m Bool}

/-- At any pace, the merge of two lists is the plain one. -/
def Merges (test : α → α → m Bool) (leads : α → α → Bool) (forward : Bool)
    (left right : List α) : Prop :=
  ∀ pace patience, ∃ later,
    mergeFrom test forward pace patience left right = pure (left.merge right leads, later)

section Step

variable [LawfulMonad m] {x y : α} {xs ys : List α} (patience : Nat)
  (h : Parted leads (x :: xs) (y :: ys)) (hend : EndsWith leads forward (x :: xs) (y :: ys))
  (htest : ∀ a ∈ x :: xs, ∀ b ∈ y :: ys, test a b = pure (leads a b))
  (hnone : remainder? forward (x :: xs) (y :: ys) = none)
  (hlater : ∀ laterLeft laterRight, laterLeft <:+ x :: xs → laterRight <:+ y :: ys →
    laterLeft.length + laterRight.length < (x :: xs).length + (y :: ys).length →
      Merges test leads forward laterLeft laterRight)

include htest hnone hlater

theorem mergeFrom_single (lefts rights : Nat) : ∃ later,
    mergeFrom test forward (.single lefts rights) patience (x :: xs) (y :: ys) =
      pure ((x :: xs).merge (y :: ys) leads, later) := by
  rw [mergeFrom.eq_2 _ _ _ _ _ _ _ _ _ hnone, htest x (by simp) y (by simp), pure_bind,
    List.cons_merge_cons]
  cases leads x y with
  | true =>
    obtain ⟨later, hmerge⟩ := hlater xs (y :: ys) (List.suffix_cons x xs) (List.suffix_refl _)
      (by simp) (if patience ≤ lefts + 1 then .strideLeft false else .single (lefts + 1) 0) patience
    exact ⟨later, by simp [hmerge]⟩
  | false =>
    obtain ⟨later, hmerge⟩ := hlater (x :: xs) ys (List.suffix_refl _) (List.suffix_cons y ys)
      (by simp) (if patience ≤ rights + 1 then .strideLeft false else .single 0 (rights + 1))
      patience
    exact ⟨later, by simp [hmerge]⟩

include h hend

theorem mergeFrom_strideLeft (again : Bool) : ∃ later,
    mergeFrom test forward (.strideLeft again) patience (x :: xs) (y :: ys) =
      pure ((x :: xs).merge (y :: ys) leads, later) := by
  have hparts := h.lefts y List.mem_cons_self
  obtain ⟨htaken, hnext⟩ := h.merge_strideLeft
  rw [mergeFrom.eq_3 _ _ _ _ _ _ _ _ hnone,
    leading_eq forward hparts fun a ha => htest a ha y List.mem_cons_self, pure_bind, htaken]
  generalize (x :: xs).countP (fun a => leads a y) = taken at hnext
  have hdrop := List.drop_suffix taken (x :: xs)
  cases hrest : remainder? forward ((x :: xs).drop taken) (y :: ys) with
  | some tail =>
    have htail := (hend.suffix hdrop (List.suffix_refl _)).eq_of_remainder? hrest
    subst htail
    simp only [hrest]
    exact ⟨_, rfl⟩
  | none =>
    have hshorter := hdrop.length_le
    have hmerges := hlater _ ys hdrop (List.suffix_cons y ys) (by
      rw [List.length_cons (a := y)]
      omega)
    obtain ⟨later, hmerge⟩ := hmerges (.strideRight taken)
      (if again = true then max 1 (patience - 1) else patience)
    exact ⟨later, by simp only [hrest, hmerge, pure_bind, hnext]⟩

theorem mergeFrom_strideRight (before : Nat) : ∃ later,
    mergeFrom test forward (.strideRight before) patience (x :: xs) (y :: ys) =
      pure ((x :: xs).merge (y :: ys) leads, later) := by
  have hparts := h.rights x List.mem_cons_self
  obtain ⟨htaken, hnext⟩ := h.merge_strideRight
  rw [mergeFrom.eq_4 _ _ _ _ _ _ _ _ hnone,
    leading_eq forward hparts fun b hb => by rw [htest x List.mem_cons_self b hb, pure_bind],
    pure_bind, htaken]
  generalize (y :: ys).countP (fun b => !leads x b) = taken at hnext
  have hdrop := List.drop_suffix taken (y :: ys)
  have hxs := List.suffix_cons x xs
  cases hrest : remainder? forward (x :: xs) ((y :: ys).drop taken) with
  | some tail =>
    have htail := (hend.suffix (List.suffix_refl _) hdrop).eq_of_remainder? hrest
    subst htail
    simp only [hrest]
    exact ⟨_, rfl⟩
  | none =>
    rw [hnext]
    cases hlast : remainder? forward xs ((y :: ys).drop taken) with
    | some tail =>
      have htail := (hend.suffix hxs hdrop).eq_of_remainder? hlast
      subst htail
      simp only [hrest, hlast]
      exact ⟨_, rfl⟩
    | none =>
      have hshorter := hdrop.length_le
      have hmerges := hlater xs _ hxs hdrop (by
        rw [List.length_cons (a := x)]
        omega)
      simp only [hrest, hlast]
      split
      · obtain ⟨later, hmerge⟩ := hmerges (.strideLeft true) patience
        exact ⟨later, by rw [hmerge, pure_bind]⟩
      · obtain ⟨later, hmerge⟩ := hmerges (.single 0 0) (patience + 1)
        exact ⟨later, by rw [hmerge, pure_bind]⟩

end Step

/-- A merge by strides, from either end, is the plain merge. -/
theorem merges [LawfulMonad m] (h : Parted leads left right)
    (hend : EndsWith leads forward left right)
    (htest : ∀ x ∈ left, ∀ y ∈ right, test x y = pure (leads x y)) :
    Merges test leads forward left right := by
  induction hn : left.length + right.length using Nat.strongRecOn generalizing left right with
  | ind n ih =>
    intro pace patience
    cases hrest : remainder? forward left right with
    | some rest =>
      rw [mergeFrom.eq_1 _ _ _ _ _ _ _ hrest, hend.eq_of_remainder? hrest]
      exact ⟨patience, rfl⟩
    | none =>
      obtain ⟨x, xs, y, ys, rfl, rfl⟩ := exists_cons_of_remainder?_eq_none hrest
      have hlater : ∀ laterLeft laterRight, laterLeft <:+ x :: xs → laterRight <:+ y :: ys →
          laterLeft.length + laterRight.length < (x :: xs).length + (y :: ys).length →
            Merges test leads forward laterLeft laterRight := by
        intro laterLeft laterRight hleft hright hlt
        exact ih _ (hn ▸ hlt) (h.suffix hleft hright) (hend.suffix hleft hright)
          (fun a ha b hb => htest a (hleft.subset ha) b (hright.subset hb)) rfl
      cases pace with
      | single lefts rights => exact mergeFrom_single patience htest hrest hlater lefts rights
      | strideLeft again => exact mergeFrom_strideLeft patience h hend htest hrest hlater again
      | strideRight before => exact mergeFrom_strideRight patience h hend htest hrest hlater before

end Monadic

end Sorting

end VersionOrder
