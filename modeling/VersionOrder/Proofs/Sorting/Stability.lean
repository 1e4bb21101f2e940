import VersionOrder.Proofs.Sorting.Order
import VersionOrder.Sorting

/-!
# Sorting is stable

Over a total preorder, sorting puts a list in order and keeps the order of ties, in either
direction, and the maximum is the first element of the list in descending order. Every step, from
the first run to the last merge, rearranges what it is given and nothing more.

## Main definitions

- `Sorting.joined`: the elements of a stack of runs, first run first
- `Sorting.Stacked`: a stack of sorted runs that rearranges a list
- `Sorting.FirstOf`: the first of the elements that no other comes before
-/

namespace VersionOrder

namespace Sorting

variable {α : Type} {answer : α → α → Int} {values : α → Prop} {xs ys zs : List α}

theorem SortedFrom.of_rearranged (hxy : Rearranged answer values xs ys)
    (hyz : SortedFrom answer values ys zs) : SortedFrom answer values xs zs :=
  ⟨hyz.ascending, hxy.trans hyz.rearranged⟩

/-- The second element may follow the first in a run that goes down, strictly, or up. -/
def Way (answer : α → α → Int) (down : Bool) (a b : α) : Prop :=
  if down then answer b a < 0 else answer a b ≤ 0

/-- The elements of a stack of runs, from the first run to the last. -/
def joined : List (Run α) → List α
  | [] => []
  | run :: below => joined below ++ run.elements

theorem joined_append (above below : List (Run α)) :
    joined (above ++ below) = joined below ++ joined above := by
  induction above with
  | nil => simp [joined]
  | cons run above ih => simp [joined, ih]

/-- The runs of a stack are sorted, and together they rearrange a list. -/
structure Stacked (answer : α → α → Int) (values : α → Prop) (xs : List α) (runs : List (Run α)) :
    Prop where
  ascending : ∀ run ∈ runs, Ascending answer values run.elements
  rearranged : Rearranged answer values xs (joined runs)

/-- Pushing one more sorted run goes on with the list. -/
theorem Stacked.push {run : Run α} {runs : List (Run α)} (hruns : Stacked answer values xs runs)
    (hrun : SortedFrom answer values ys run.elements) :
    Stacked answer values (xs ++ ys) (run :: runs) where
  ascending := List.forall_mem_cons.2 ⟨hrun.ascending, hruns.ascending⟩
  rearranged := hruns.rearranged.append hrun.rearranged

/-- No element comes before this one, and it stands first among those that tie with it. -/
structure FirstOf (answer : α → α → Int) (xs : List α) (best : α) : Prop where
  least : ∀ x ∈ xs, answer best x ≤ 0
  first : (xs.filter fun x => answer best x = 0).head? = some best

theorem FirstOf.mem {best : α} (hbest : FirstOf answer xs best) : best ∈ xs :=
  (List.mem_filter.1 (List.mem_of_mem_head? hbest.first)).1

section Order

variable (h : SignPreorderOn answer values) {m : Type → Type} [Monad m] [LawfulMonad m]
  {before : α → α → m Bool} (hbefore : Tests before answer values)

include h hbefore

/-! ## Runs -/

/-- Placing an element is merging a list of one. -/
theorem place_eq {x : α} (hx : values x) (hxs : Ascending answer values xs) :
    place before x xs = pure (xs.merge [x] (mayPrecede answer)) := by
  have hone : Ascending answer values [x] := ⟨by simpa using hx, List.pairwise_singleton ..⟩
  have hparts := parted_of_ascending h hxs hone
  have hcut := hparts.lefts x List.mem_cons_self
  obtain ⟨htaken, hnext⟩ := hparts.merge_strideLeft
  rw [place, bisect_eq true hcut fun y hy => hbefore.not_eq (hxs.within y hy) hx, pure_bind, htaken,
    hnext, List.merge_right]

/-- A run that is filled up by placing elements stays sorted. -/
theorem fillUp_eq {run : List α} (hrun : Ascending answer values run) (hxs : ∀ x ∈ xs, values x) :
    ∃ filled, xs.foldlM (fun sorted x => place before x sorted) run = pure filled ∧
      SortedFrom answer values (run ++ xs) filled := by
  induction xs generalizing run with
  | nil => exact ⟨run, rfl, hrun, by simpa using Rearranged.refl run⟩
  | cons x xs ih =>
    obtain ⟨hx, hrest⟩ := List.forall_mem_cons.1 hxs
    have hone : Ascending answer values [x] := ⟨by simpa using hx, List.pairwise_singleton ..⟩
    have hplaced := sortedFrom_merge h hrun hone
    obtain ⟨filled, hfold, hsorted⟩ := ih hplaced.ascending hrest
    refine ⟨filled, ?_, ?_⟩
    · rw [List.foldlM_cons, place_eq h hbefore hx hrun, pure_bind, hfold]
    · have hstep := hplaced.rearranged.append (Rearranged.refl xs)
      rw [List.append_assoc] at hstep
      exact hsorted.of_rearranged hstep

omit hbefore [LawfulMonad m] in
theorem way_of_test {a b : α} (ha : values a) (hb : values b) :
    Way answer (decide (answer b a < 0)) a b := by
  have hswap := h.pos_iff ha hb
  unfold Way
  split
  next hdown => simpa using hdown
  next hup =>
    rw [decide_eq_true_eq] at hup
    omega

omit hbefore [LawfulMonad m] in
/-- One more step the same way, at the start. -/
theorem pairwise_way_cons {down : Bool} {a b : α} (hxs : ∀ x ∈ a :: b :: xs, values x)
    (hstep : Way answer down a b) (hway : (b :: xs).Pairwise (Way answer down)) :
    (a :: b :: xs).Pairwise (Way answer down) := by
  obtain ⟨ha, hb, hrest⟩ : values a ∧ values b ∧ ∀ x ∈ xs, values x := by simpa using hxs
  have hbehind := (List.pairwise_cons.1 hway).1
  refine List.pairwise_cons.2 ⟨?_, hway⟩
  rw [List.forall_mem_cons]
  refine ⟨hstep, ?_⟩
  intro c hc
  have hlater := hbehind c hc
  unfold Way at hstep hlater ⊢
  cases down with
  | true => exact h.neg_of_neg_of_nonpos (hrest c hc) hb ha hlater (Int.le_of_lt hstep)
  | false => exact h.trans ha hb (hrest c hc) hstep hlater

theorem continueRun_eq (down : Bool) {last : α} (hlast : values last) (hxs : ∀ x ∈ xs, values x) :
    ∃ run tail, continueRun before down last xs = pure (run, tail) ∧ run ++ tail = xs ∧
      (last :: run).Pairwise (Way answer down) := by
  induction xs generalizing last with
  | nil => exact ⟨[], [], rfl, rfl, List.pairwise_singleton ..⟩
  | cons x xs ih =>
    obtain ⟨hx, hrest⟩ := List.forall_mem_cons.1 hxs
    rw [continueRun, hbefore x last hx hlast, pure_bind]
    by_cases hgoes : decide (answer x last < 0) = down
    · obtain ⟨run, tail, hrun, hsplit, hway⟩ := ih hx hrest
      refine ⟨x :: run, tail, by rw [if_pos hgoes, hrun, pure_bind], by simp [hsplit], ?_⟩
      have hmem : ∀ y ∈ last :: x :: run, values y := by
        have hrun : ∀ y ∈ run, values y := fun y hy => hrest y (by simp [← hsplit, hy])
        simpa using ⟨hlast, hx, hrun⟩
      exact pairwise_way_cons h hmem (hgoes ▸ way_of_test h hlast hx) hway
    · exact ⟨[], x :: xs, by rw [if_neg hgoes], rfl, List.pairwise_singleton ..⟩

omit hbefore [LawfulMonad m] in
/-- Of elements in strictly descending order no two tie, so turning them round keeps all ties. -/
theorem sortedFrom_reverse (hxs : ∀ x ∈ xs, values x)
    (hdown : xs.Pairwise fun a b => answer b a < 0) :
    SortedFrom answer values xs xs.reverse := by
  refine ⟨⟨?_, ?_⟩, List.reverse_perm xs, ?_⟩
  · exact fun a ha => hxs a (List.mem_reverse.1 ha)
  · rw [List.pairwise_reverse]
    exact hdown.imp fun hab => Int.le_of_lt hab
  · intro t ht
    rw [List.filter_reverse]
    have hties : (xs.filter fun a => answer t a = 0).Pairwise fun a b => answer b a < 0 :=
      hdown.filter _
    have hmem : ∀ a ∈ xs.filter fun a => answer t a = 0, values a ∧ answer t a = 0 := by
      intro a ha
      obtain ⟨hin, htie⟩ := List.mem_filter.1 ha
      exact ⟨hxs a hin, by simpa using htie⟩
    generalize xs.filter (fun a => answer t a = 0) = tied at hties hmem
    match tied with
    | [] => rfl
    | [a] => rfl
    | a :: b :: rest =>
      obtain ⟨ha, hta⟩ := hmem a (by simp)
      obtain ⟨hb, htb⟩ := hmem b (by simp)
      have hba := (List.pairwise_cons.1 hties).1 b List.mem_cons_self
      have htie := h.eq_zero_trans hb ht ha ((h.eq_zero_iff ht hb).1 htb) hta
      omega

/-- The first run is cut off the list and sorted. -/
theorem firstRun_eq (hxs : ∀ x ∈ xs, values x) :
    ∃ run tail, firstRun before xs = pure (run, tail) ∧ (xs ≠ [] → tail.length < xs.length) ∧
      ∃ raw, xs = raw ++ tail ∧ SortedFrom answer values raw run := by
  match xs, hxs with
  | [], _ => exact ⟨[], [], rfl, by simp, [], rfl, ⟨by simp, .nil⟩, Rearranged.refl []⟩
  | [a], hxs =>
    exact ⟨[a], [], rfl, by simp, [a], rfl, ⟨hxs, List.pairwise_singleton ..⟩, Rearranged.refl [a]⟩
  | a :: b :: rest, hxs =>
    obtain ⟨ha, hb, hrest⟩ : values a ∧ values b ∧ ∀ x ∈ rest, values x := by simpa using hxs
    obtain ⟨run, tail, hrun, rfl, hway⟩ :=
      continueRun_eq h hbefore (decide (answer b a < 0)) hb hrest
    have hmem : ∀ y ∈ a :: b :: run, values y := fun y hy => hxs y (by
      rw [← List.cons_append, ← List.cons_append]
      exact List.mem_append_left tail hy)
    have hraw := pairwise_way_cons h hmem (way_of_test h ha hb) hway
    rw [firstRun, hbefore b a hb ha, pure_bind, hrun, pure_bind]
    refine ⟨_, tail, rfl, ?_, a :: b :: run, rfl, ?_⟩
    · intro _
      simp only [List.length_cons, List.length_append]
      omega
    · by_cases hdown : answer b a < 0
      · simp only [hdown, decide_true, if_true] at hraw ⊢
        exact sortedFrom_reverse h hmem hraw
      · simp only [hdown, decide_false, Bool.false_eq_true, if_false] at hraw ⊢
        exact ⟨⟨hmem, hraw⟩, Rearranged.refl _⟩

/-! ## Stacks of runs -/

omit hbefore [LawfulMonad m] in
/-- Two neighbouring runs may be merged wherever they lie in a stack. -/
theorem Stacked.mergeNeighbours {above below : List (Run α)} {first second merged : Run α}
    (hruns : Stacked answer values xs (above ++ second :: first :: below))
    (hmerged : merged.elements = first.elements.merge second.elements (mayPrecede answer)) :
    Stacked answer values xs (above ++ merged :: below) := by
  have hfirst := hruns.ascending first (by simp)
  have hsecond := hruns.ascending second (by simp)
  have hsorted := sortedFrom_merge h hfirst hsecond
  constructor
  · intro run hrun
    rcases List.mem_append.1 hrun with habove | hrun
    · exact hruns.ascending run (List.mem_append_left _ habove)
    · obtain rfl | hbelow := List.mem_cons.1 hrun
      · exact hmerged ▸ hsorted.ascending
      · exact hruns.ascending run (by simp [hbelow])
  · refine hruns.rearranged.trans ?_
    simp only [joined_append, joined, hmerged, List.append_assoc]
    have hmiddle := hsorted.rearranged.append (Rearranged.refl (joined above))
    rw [List.append_assoc] at hmiddle
    exact (Rearranged.refl (joined below)).append hmiddle

omit hbefore [LawfulMonad m] in
theorem Stacked.mergeTop {below : List (Run α)} {first second merged : Run α}
    (hruns : Stacked answer values xs (second :: first :: below))
    (hmerged : merged.elements = first.elements.merge second.elements (mayPrecede answer)) :
    Stacked answer values xs (merged :: below) := by
  have hstack : Stacked answer values xs ([] ++ second :: first :: below) := hruns
  exact hstack.mergeNeighbours h hmerged

theorem settle_eq (depth patience : Nat) {runs : List (Run α)}
    (hruns : Stacked answer values xs runs) :
    ∃ settled later, settle before depth patience runs = pure ⟨settled, later⟩ ∧
      Stacked answer values xs settled := by
  fun_induction settle before depth patience runs with
  | case1 patience last previous rest hdepth ih =>
    have hprevious := hruns.ascending previous (by simp)
    have hlast := hruns.ascending last (by simp)
    obtain ⟨later, hmerge⟩ := merge_eq h hbefore hprevious hlast patience
    rw [hmerge, pure_bind]
    exact ih _ _ (hruns.mergeTop h rfl)
  | case2 patience last previous rest hdepth => exact ⟨_, _, rfl, hruns⟩
  | case3 patience runs hshort => exact ⟨_, _, rfl, hruns⟩

theorem push_eq (length : Nat) {progress : Progress α} {run : List α}
    (hprogress : Stacked answer values xs progress.runs) (hrun : SortedFrom answer values ys run) :
    ∃ later, progress.push before length run = pure later ∧
      Stacked answer values (xs ++ ys) later.runs := by
  obtain ⟨runs, patience⟩ := progress
  cases runs with
  | nil => exact ⟨_, rfl, hprogress.push hrun⟩
  | cons last below =>
    obtain ⟨settled, later, hsettle, hsettled⟩ :=
      settle_eq h hbefore (last.depthBefore length run.length) patience hprogress
    simp only [Progress.push, hsettle, pure_bind]
    cases settled with
    | nil => exact ⟨_, rfl, hsettled.push hrun⟩
    | cons top rest =>
      -- The depth that is noted at the top run is no part of what the stack holds.
      have hnoted : Stacked answer values xs
          ({ top with depth := last.depthBefore length run.length } :: rest) :=
        ⟨by simpa using hsettled.ascending, hsettled.rearranged⟩
      exact ⟨_, rfl, hnoted.push hrun⟩

theorem pushRuns_eq (length : Nat) {fuel : Nat} (hfuel : ys.length ≤ fuel) {progress : Progress α}
    (hprogress : Stacked answer values xs progress.runs) (hys : ∀ y ∈ ys, values y) :
    ∃ later, pushRuns before length fuel progress ys = pure later ∧
      Stacked answer values (xs ++ ys) later.runs := by
  induction fuel generalizing progress xs ys with
  | zero =>
    obtain rfl := List.length_eq_zero_iff.1 (Nat.le_zero.1 hfuel)
    exact ⟨progress, rfl, by simpa using hprogress⟩
  | succ fuel ih =>
    cases ys with
    | nil => exact ⟨progress, rfl, by simpa using hprogress⟩
    | cons y rest =>
      obtain ⟨run, tail, hrun, hshorter, raw, hraw, hsorted⟩ := firstRun_eq h hbefore hys
      have htail : ∀ z ∈ tail, values z := fun z hz => hys z (by simp [hraw, hz])
      have hsplit := List.take_append_drop (leastRun length - run.length) tail
      rw [pushRuns.eq_3 before length progress (y :: rest) fuel (by simp), hrun, pure_bind]
      dsimp only
      generalize tail.take (leastRun length - run.length) = taken at hsplit
      generalize tail.drop (leastRun length - run.length) = left at hsplit
      subst hsplit
      obtain ⟨filled, hfill, hfilled⟩ := fillUp_eq h hbefore hsorted.ascending
        fun z hz => htail z (List.mem_append_left _ hz)
      have hwhole : SortedFrom answer values (raw ++ taken) filled :=
        hfilled.of_rearranged (hsorted.rearranged.append (Rearranged.refl taken))
      obtain ⟨pushed, hpush, hpushed⟩ := push_eq h hbefore length hprogress hwhole
      have hshort : left.length ≤ fuel := by
        have hlt := hshorter (List.cons_ne_nil y rest)
        rw [List.length_append] at hlt
        omega
      obtain ⟨later, hmore, hlater⟩ := ih hshort hpushed
        fun z hz => htail z (List.mem_append_right _ hz)
      refine ⟨later, by rw [hfill, pure_bind, hpush, pure_bind, hmore], ?_⟩
      rw [hraw]
      simpa only [List.append_assoc] using hlater

theorem collapse_eq (patience : Nat) {runs : List (Run α)} (hruns : Stacked answer values xs runs) :
    ∃ sorted, collapse before patience runs = pure sorted ∧ SortedFrom answer values xs sorted := by
  fun_induction collapse before patience runs with
  | case1 patience => exact ⟨[], rfl, ⟨by simp, .nil⟩, hruns.rearranged⟩
  | case2 patience run =>
    exact ⟨run.elements, rfl, hruns.ascending run (by simp), hruns.rearranged⟩
  | case3 patience last previous =>
    have hprevious := hruns.ascending previous (by simp)
    have hlast := hruns.ascending last (by simp)
    obtain ⟨later, hmerge⟩ := merge_eq h hbefore hprevious hlast patience
    rw [hmerge, pure_bind]
    exact ⟨_, rfl, (sortedFrom_merge h hprevious hlast).of_rearranged hruns.rearranged⟩
  | case4 patience last previous earlier rest hshort ih =>
    have hearlier := hruns.ascending earlier (by simp)
    have hprevious := hruns.ascending previous (by simp)
    obtain ⟨later, hmerge⟩ := merge_eq h hbefore hearlier hprevious patience
    have hstack : Stacked answer values xs ([last] ++ previous :: earlier :: rest) := hruns
    rw [hmerge, pure_bind]
    exact ih _ _ (hstack.mergeNeighbours h rfl)
  | case5 patience last previous earlier rest hlong ih =>
    have hprevious := hruns.ascending previous (by simp)
    have hlast := hruns.ascending last (by simp)
    obtain ⟨later, hmerge⟩ := merge_eq h hbefore hprevious hlast patience
    rw [hmerge, pure_bind]
    exact ih _ _ (hruns.mergeTop h rfl)

/-! ## Whole lists -/

/-- Sorting sorts. -/
theorem sort_eq (hxs : ∀ x ∈ xs, values x) :
    ∃ sorted, sort before xs = pure sorted ∧ SortedFrom answer values xs sorted := by
  have hempty : Stacked answer values [] ({} : Progress α).runs := ⟨by simp, Rearranged.refl []⟩
  obtain ⟨later, hpush, hlater⟩ := pushRuns_eq h hbefore xs.length (Nat.le_refl _) hempty hxs
  obtain ⟨sorted, hcollapse, hsorted⟩ := collapse_eq h hbefore later.patience hlater
  exact ⟨sorted, by rw [sort, hpush, pure_bind, hcollapse], hsorted⟩

omit hbefore [LawfulMonad m] in
theorem Ascending.reverse (hxs : Ascending answer values xs) :
    Ascending (reversed answer) values xs.reverse := by
  refine ⟨fun a ha => hxs.within a (List.mem_reverse.1 ha), List.pairwise_reverse.2 ?_⟩
  refine hxs.pairwise.imp_of_mem ?_
  intro a b ha hb hab
  have hswap := h.pos_iff (hxs.within a ha) (hxs.within b hb)
  simp only [reversed]
  omega

/-- Sorting the other way sorts by the reversed order, ties still in their given order. -/
theorem sortDescending_eq (hxs : ∀ x ∈ xs, values x) :
    ∃ sorted, sortDescending before xs = pure sorted ∧
      SortedFrom (reversed answer) values xs sorted := by
  obtain ⟨sorted, hsort, hsorted⟩ := sort_eq h hbefore fun x hx => hxs x (List.mem_reverse.1 hx)
  refine ⟨sorted.reverse, by rw [sortDescending, hsort, pure_bind],
    hsorted.ascending.reverse h, ?_, ?_⟩
  · exact (List.reverse_perm sorted).trans
      (hsorted.rearranged.perm.trans (List.reverse_perm xs))
  · intro t ht
    simp only [reversed, Int.neg_eq_zero]
    rw [List.filter_reverse, hsorted.rearranged.ties t ht, List.filter_reverse,
      List.reverse_reverse]

omit hbefore [LawfulMonad m] in
/-- A list in ascending order starts with the element that stands first of all. -/
theorem FirstOf.head?_eq {best : α} {sorted : List α} (hbest : FirstOf answer xs best)
    (hsorted : SortedFrom answer values xs sorted) : sorted.head? = some best := by
  have hmem := hsorted.rearranged.perm.mem_iff.2 hbest.mem
  have hvalue := hsorted.ascending.within best hmem
  cases sorted with
  | nil => cases hmem
  | cons first rest =>
    have hfirst := hsorted.ascending.within first List.mem_cons_self
    have hnotAfter : answer first best ≤ 0 := by
      rcases List.mem_cons.1 hmem with rfl | hlater
      · exact Int.le_of_eq (h.self hvalue)
      · exact (List.pairwise_cons.1 hsorted.ascending.pairwise).1 best hlater
    have hleast := hbest.least first (hsorted.rearranged.perm.subset List.mem_cons_self)
    have htie : answer best first = 0 := h.tie_of_le hvalue hfirst hleast hnotAfter
    have hties := hsorted.rearranged.ties best hvalue
    rw [List.filter_cons_of_pos (by simpa using htie)] at hties
    rw [← hbest.first, ← hties]
    rfl

omit hbefore [LawfulMonad m] in
/-- One more element is the first of all only if it comes before the one that is. -/
theorem FirstOf.append_singleton {best x : α} (hbest : FirstOf answer xs best)
    (hxs : ∀ y ∈ xs, values y) (hx : values x) :
    FirstOf answer (xs ++ [x]) (if answer x best < 0 then x else best) := by
  have hvalue := hxs best hbest.mem
  split
  next hbefore =>
    have hless : ∀ y ∈ xs, answer x y < 0 := fun y hy =>
      h.neg_of_neg_of_nonpos hx hvalue (hxs y hy) hbefore (hbest.least y hy)
    have hnone : xs.filter (fun y => answer x y = 0) = [] := by
      rw [List.filter_eq_nil_iff]
      intro y hy htie
      have hlt := hless y hy
      rw [decide_eq_true_eq] at htie
      omega
    constructor
    · intro y hy
      rcases List.mem_append.1 hy with hy | hy
      · exact Int.le_of_lt (hless y hy)
      · rw [List.mem_singleton.1 hy]
        exact Int.le_of_eq (h.self hx)
    · rw [List.filter_append, hnone, List.nil_append,
        List.filter_cons_of_pos (by simpa using h.self hx)]
      rfl
  next hnot =>
    have hswap := h.pos_iff hvalue hx
    constructor
    · intro y hy
      rcases List.mem_append.1 hy with hy | hy
      · exact hbest.least y hy
      · rw [List.mem_singleton.1 hy]
        omega
    · rw [List.filter_append, List.head?_append, hbest.first]
      rfl

theorem foldlM_firstOf {best : α} (hbest : FirstOf answer xs best)
    (hvalues : ∀ x ∈ xs ++ ys, values x) :
    ∃ first, ys.foldlM (fun best x => do return if ← before x best then x else best) best =
        pure first ∧ FirstOf answer (xs ++ ys) first := by
  induction ys generalizing xs best with
  | nil => exact ⟨best, rfl, by simpa using hbest⟩
  | cons y ys ih =>
    have hxs : ∀ x ∈ xs, values x := fun x hx => hvalues x (List.mem_append_left _ hx)
    have hy : values y := hvalues y (by simp)
    have hstep := hbest.append_singleton h hxs hy
    obtain ⟨first, hfold, hfirst⟩ := ih hstep (by simpa using hvalues)
    refine ⟨first, ?_, by simpa using hfirst⟩
    rw [List.foldlM_cons, hbefore y best hy (hxs best hbest.mem), pure_bind, pure_bind]
    simpa using hfold

/-- The element that the maximum settles on is the one that sorting puts first. -/
theorem maximum?_eq {sorted : List α} (hsorted : SortedFrom answer values xs sorted) :
    maximum? before xs = pure sorted.head? := by
  cases xs with
  | nil =>
    have hempty : sorted = [] := List.perm_nil.1 hsorted.rearranged.perm
    simp [maximum?, hempty]
  | cons x xs =>
    have hvalues : ∀ y ∈ [x] ++ xs, values y := fun y hy =>
      hsorted.ascending.within y (hsorted.rearranged.perm.mem_iff.2 hy)
    have hself : answer x x = 0 := h.self (hvalues x (by simp))
    have hone : FirstOf answer [x] x := ⟨by simp [hself], by simp [hself]⟩
    obtain ⟨first, hfold, hfirst⟩ := foldlM_firstOf h hbefore hone hvalues
    rw [maximum?, hfold, pure_bind, FirstOf.head?_eq h hfirst hsorted]

end Order

end Sorting

end VersionOrder
