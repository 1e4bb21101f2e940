import VersionOrder.Column
import VersionOrder.Proofs.BuildOrder
import VersionOrder.Proofs.Interval.Answers
import VersionOrder.Proofs.Sorting.Stability

/-!
# Columns in order

In the order of a scheme whose precedence is a total preorder, sorting a column, its maximum and
its masks agree: the maximum is the first text in descending order, and an interval is one block of
a sorted column. Texts that write versions of equal precedence keep their order throughout.

## Main definitions

- `Column.tie`: texts of equal precedence
- `Column.SortedBy`: the texts of a column in the order of a scheme
- `Column.precedence`: the answers of a scheme for texts
-/

namespace VersionOrder

namespace Interval

variable {α : Type} {answer : α → α → Int} {values : α → Prop} {xs : List α}

open Sorting

/-- In ascending order, what a right endpoint admits stands before what it cuts off. -/
theorem passFirst_clearsRight (h : SignPreorderOn answer values)
    (hxs : Ascending answer values xs) {right : Endpoint α} (hright : right.Within values) :
    PassFirst (clearsRight answer right) xs := by
  refine hxs.pairwise.imp_of_mem ?_
  intro a c ha hc hac hclears
  cases right with
  | unbounded => rfl
  | bounded closed bound =>
    have hva := hxs.within a ha
    have hvc := hxs.within c hc
    rw [clearsRight_bounded] at hclears ⊢
    rcases hclears with hlt | ⟨htie, hclosed⟩
    · exact .inl (h.neg_of_nonpos_of_neg hva hvc hright hac hlt)
    · have hle := h.trans hva hvc hright hac (Int.le_of_eq htie)
      rcases Int.lt_or_eq_of_le hle with hlt | heq
      · exact .inl hlt
      · exact .inr ⟨heq, hclosed⟩

theorem clearsRight_reversed : clearsRight (reversed answer) = clearsLeft answer := by
  have htwice : reversed (reversed answer) = answer := by
    funext a b
    exact Int.neg_neg (answer a b)
  rw [clearsRight, htwice]

/-- What a left endpoint cuts off stands first: turned round, the order makes it a right one. -/
theorem passFirst_not_clearsLeft (h : SignPreorderOn answer values)
    (hxs : Ascending answer values xs) {left : Endpoint α} (hleft : left.Within values) :
    PassFirst (fun x => !clearsLeft answer left x) xs := by
  have hback := (passFirst_clearsRight h.reversed (hxs.reverse h) hleft).reverse
  rwa [clearsRight_reversed, List.reverse_reverse] at hback

/-- Membership in the reversed order is that of the interval turned round. -/
theorem memberBy_reversed (i : Interval α) :
    memberBy (reversed answer) ⟨i.right, i.left⟩ = memberBy answer i := by
  funext x
  rw [memberBy, memberBy, clearsRight_reversed, Bool.and_comm, clearsRight]

/-- What has its keys in ascending order has those inside an interval in one block. -/
theorem exists_block {β : Type} {key : β → α} {keyed : List β} (h : SignPreorderOn answer values)
    (hkeyed : Ascending answer values (keyed.map key)) {i : Interval α} (hi : i.Within values) :
    ∃ below inside above, keyed = below ++ inside ++ above ∧
      (∀ x ∈ below, memberBy answer i (key x) = false) ∧
      (∀ x ∈ inside, memberBy answer i (key x) = true) ∧
      ∀ x ∈ above, memberBy answer i (key x) = false := by
  have hcut : PassFirst (fun x => !clearsLeft answer i.left (key x)) keyed :=
    List.pairwise_map.1 (passFirst_not_clearsLeft h hkeyed hi.left)
  have hkept : PassFirst (fun x => clearsRight answer i.right (key x)) keyed :=
    List.pairwise_map.1 (passFirst_clearsRight h hkeyed hi.right)
  let cut := keyed.countP fun x => !clearsLeft answer i.left (key x)
  let upper := keyed.drop cut
  have hupper : ∀ x ∈ upper, clearsLeft answer i.left (key x) = true := by
    simpa using hcut.forall_drop
  replace hkept := hkept.sublist (List.drop_sublist cut keyed)
  let kept := upper.countP fun x => clearsRight answer i.right (key x)
  refine ⟨keyed.take cut, upper.take kept, upper.drop kept, ?_, ?_, ?_, ?_⟩
  · rw [List.append_assoc, List.take_append_drop, List.take_append_drop]
  · intro x hx
    have hout := hcut.forall_take x hx
    rw [Bool.not_eq_true'] at hout
    rw [memberBy, hout, Bool.false_and]
  · intro x hx
    rw [memberBy, hupper x (List.mem_of_mem_take hx), hkept.forall_take x hx, Bool.and_self]
  · intro x hx
    rw [memberBy, hkept.forall_drop x hx, Bool.and_false]

end Interval

namespace Column

open Sorting

/-- Two texts write versions of equal precedence. -/
def tie (scheme : Scheme) (left right : Text) : Bool :=
  match scheme.compare (scheme.parse left) (scheme.parse right) with
  | .ok sign => sign = 0
  | .error _ => false

/-- The texts in the order of precedence, which may go down, and those of equal precedence in their
given order. -/
structure SortedBy (scheme : Scheme) (descending : Bool) (given ordered : List Text) : Prop where
  /-- No text is lost, and none is added. -/
  perm : ordered.Perm given
  /-- Each text may stand before all that follow it. -/
  pairwise : ordered.Pairwise fun left right =>
    ∃ sign, scheme.compare (scheme.parse left) (scheme.parse right) = .ok sign ∧
      if descending then 0 ≤ sign else sign ≤ 0
  /-- The texts of one precedence stand in their given order. -/
  ties : ∀ text ∈ given, ordered.filter (tie scheme text) = given.filter (tie scheme text)

/-- What a scheme answers for two texts, given its answers for versions. -/
def precedence (scheme : Scheme) (answer : Version → Version → Int) (left right : Text) : Int :=
  answer (scheme.parse left) (scheme.parse right)

/-- The answers in the direction of sorting. -/
def towards (descending : Bool) (answer : Version → Version → Int) : Version → Version → Int :=
  if descending then reversed answer else answer

theorem length_filterMap_id (values : List (Option Text)) :
    values.length - (values.filterMap id).length = values.count none := by
  have hsum : (values.filterMap id).length + values.count none = values.length := by
    induction values with
    | nil => rfl
    | cons value values ih =>
      cases value with
      | none =>
        rw [List.filterMap_cons_none rfl, List.count_cons_self, List.length_cons]
        omega
      | some text =>
        have hkept : (some text :: values).filterMap id = text :: values.filterMap id := rfl
        rw [hkept, List.count_cons_of_ne (Option.some_ne_none text), List.length_cons,
          List.length_cons]
        omega
  omega

section Order

variable {scheme : Scheme} {answer : Version → Version → Int} {versions : Version → Prop}
  (hanswer : ∀ a b, versions a → versions b → scheme.compare a b = .ok (answer a b))
  (h : SignPreorderOn answer versions) {texts : List Text}
  (htexts : ∀ text ∈ texts, versions (scheme.parse text))

include hanswer

theorem tests_textBefore : Tests (textBefore scheme) (precedence scheme answer)
    fun text => versions (scheme.parse text) := by
  intro left right hleft hright
  rw [textBefore, hanswer _ _ hleft hright]
  rfl

theorem tests_after : Tests
    (fun left right => return 0 < (← scheme.compare (scheme.parse left) (scheme.parse right)))
    (precedence scheme (reversed answer)) fun text => versions (scheme.parse text) := by
  intro left right hleft hright
  simp only [hanswer _ _ hleft hright, reversed, precedence, Int.neg_neg_iff_pos]
  rfl

theorem tie_eq {left right : Text} (hleft : versions (scheme.parse left))
    (hright : versions (scheme.parse right)) :
    tie scheme left right = decide (precedence scheme answer left right = 0) := by
  rw [tie, hanswer _ _ hleft hright]
  rfl

include h htexts

theorem sortTexts_eq (descending : Bool) :
    ∃ ordered, sortTexts scheme descending texts = .ok ordered ∧
      SortedFrom (precedence scheme (towards descending answer))
        (fun text => versions (scheme.parse text)) texts ordered := by
  have horder : SignPreorderOn (precedence scheme answer)
      fun text => versions (scheme.parse text) := h.comap scheme.parse
  have htests := tests_textBefore hanswer
  cases descending with
  | true => exact sortDescending_eq horder htests htexts
  | false => exact Sorting.sort_eq horder htests htexts

omit h in
theorem sortedBy_of_sortedFrom {descending : Bool} {ordered : List Text}
    (hsorted : SortedFrom (precedence scheme (towards descending answer))
      (fun text => versions (scheme.parse text)) texts ordered) :
    SortedBy scheme descending texts ordered where
  perm := hsorted.rearranged.perm
  pairwise := by
    refine hsorted.ascending.pairwise.imp_of_mem ?_
    intro left right hleft hright hstep
    refine ⟨_, hanswer _ _ (hsorted.ascending.within left hleft)
      (hsorted.ascending.within right hright), ?_⟩
    cases descending with
    | true => exact (Int.neg_nonpos_iff _).1 hstep
    | false => exact hstep
  ties := by
    intro text htext
    have hvalue := htexts text htext
    have hzero : ∀ other, versions (scheme.parse other) →
        tie scheme text other =
          decide (precedence scheme (towards descending answer) text other = 0) := by
      intro other hother
      rw [tie_eq hanswer hvalue hother]
      cases descending with
      | true => exact decide_eq_decide.2 Int.neg_eq_zero.symm
      | false => rfl
    rw [List.filter_congr fun other hother => hzero other (htexts other hother),
      List.filter_congr fun other hother => hzero other (hsorted.ascending.within other hother)]
    exact hsorted.rearranged.ties text hvalue

end Order

/-- Sorting a column is sorting its texts. -/
theorem sort_eq {column : Column} {values : List (Option Text)}
    (hcells : column.cells = .texts values) {ref : SchemeRef} {scheme : Scheme}
    (href : Registry.resolve none ref = .ok scheme) {descending : Bool} {ordered : List Text}
    (hordered : sortTexts scheme descending (values.filterMap id) = .ok ordered) :
    column.sort ref descending = .ok { column with
      cells := .texts (ordered.map some ++ List.replicate (values.count none) none) } := by
  simp only [sort, texts, hcells, href, hordered, length_filterMap_id, bind, Except.bind, pure,
    Except.pure]

/-- The helpers of columns agree. Sorting puts the texts of a column in the order of their
precedence and its gaps last, and the maximum, which is missing exactly if there are only gaps, is
what sorting in descending order puts first. -/
theorem sort_max_agree (column : Column) (values : List (Option Text))
    (hcells : column.cells = .texts values) (ref : SchemeRef) (scheme : Scheme)
    (href : Registry.resolve none ref = .ok scheme) (versions : Version → Prop)
    (horder : TotalPreorderOn scheme.compare versions)
    (hvalues : ∀ text, some text ∈ values → versions (scheme.parse text)) :
    (∀ descending, ∃ ordered,
      column.sort ref descending = .ok { column with
        cells := .texts (ordered.map some ++ List.replicate (values.count none) none) } ∧
      SortedBy scheme descending (values.filterMap id) ordered) ∧
    ∃ highest?, column.max? ref = .ok highest? ∧
      (highest? = none ↔ ∀ value ∈ values, value = none) ∧
      ∀ highest, highest? = some highest → ∃ rest,
        column.sort ref true = .ok { column with cells := .texts (some highest :: rest) } := by
  obtain ⟨answer, hanswer, h⟩ := horder
  have htexts : ∀ text ∈ values.filterMap id, versions (scheme.parse text) := by
    simpa using hvalues
  constructor
  · intro descending
    obtain ⟨ordered, hordered, hsorted⟩ := sortTexts_eq hanswer h htexts descending
    exact ⟨ordered, sort_eq hcells href hordered,
      sortedBy_of_sortedFrom hanswer htexts hsorted⟩
  · obtain ⟨ordered, hordered, hsorted⟩ := sortTexts_eq hanswer h htexts true
    have hkeyed : SignPreorderOn (precedence scheme answer)
      fun text => versions (scheme.parse text) := h.comap scheme.parse
    have hmax := maximum?_eq hkeyed.reversed (tests_after hanswer) hsorted
    refine ⟨ordered.head?, ?_, ?_, ?_⟩
    · simp only [max?, Column.texts, hcells, href, bind, Except.bind]
      exact hmax
    · rw [List.head?_eq_none_iff, ← List.length_eq_zero_iff, hsorted.rearranged.perm.length_eq,
        List.length_eq_zero_iff, List.filterMap_eq_nil_iff]
      rfl
    · intro highest hhighest
      obtain ⟨rest, hrest⟩ := List.head?_eq_some_iff.1 hhighest
      exact ⟨_, by rw [sort_eq hcells href hordered, hrest, List.map_cons, List.cons_append]⟩

/-- The texts `1.0` and `1` tie under the default scheme of semantic versioning. -/
theorem sort_max_agree_semver :
    TotalPreorderOn Scheme.semverDefault.compare (fun _ => True) ∧
    (∀ descending, ∃ ordered,
      (Column.mk "v" (.texts [some ['1', '.', '0'], none, some ['1']])).sort
          (.scheme .semverDefault) descending =
        .ok ⟨"v", .texts (ordered.map some ++ List.replicate 1 none)⟩ ∧
      SortedBy .semverDefault descending [['1', '.', '0'], ['1']] ordered) ∧
    ∃ highest?,
      (Column.mk "v" (.texts [some ['1', '.', '0'], none, some ['1']])).max?
        (.scheme .semverDefault) = .ok highest? ∧
      (highest? = none ↔ ∀ value ∈ [some ['1', '.', '0'], none, some ['1']], value = none) ∧
      ∀ highest, highest? = some highest → ∃ rest,
        (Column.mk "v" (.texts [some ['1', '.', '0'], none, some ['1']])).sort
          (.scheme .semverDefault) true = .ok ⟨"v", .texts (some highest :: rest)⟩ := by
  have horder := Scheme.totalPreorderOn_semverDefault
  exact ⟨horder, sort_max_agree _ [some ['1', '.', '0'], none, some ['1']] rfl
    (.scheme .semverDefault) .semverDefault rfl _ horder fun _ _ => trivial⟩

/-- A mask that can be told for every text leaves the gaps open. -/
theorem mask_eq {column : Column} {values : List (Option Text)}
    (hcells : column.cells = .texts values) {range : CellRange} {inside : Text → Bool}
    (hinside : ∀ text, some text ∈ values → range.contains text = .ok (inside text)) :
    column.mask range = .ok (values.map (Option.map inside)) := by
  simp only [mask, texts, hcells, bind, Except.bind]
  clear hcells
  induction values with
  | nil => rfl
  | cons value values ih =>
    have hrest := ih fun text htext => hinside text (List.mem_cons_of_mem value htext)
    rw [List.mapM_cons, hrest]
    cases value with
    | none => rfl
    | some text =>
      simp only [hinside text List.mem_cons_self]
      rfl

theorem mask_blocks {column : Column} {below inside above : List Text} {gaps : Nat}
    (hcells : column.cells =
      .texts ((below ++ inside ++ above).map some ++ List.replicate gaps none))
    {range : CellRange} {member : Text → Bool}
    (hmember : ∀ text ∈ below ++ inside ++ above, range.contains text = .ok (member text))
    (hbelow : ∀ text ∈ below, member text = false) (hinside : ∀ text ∈ inside, member text = true)
    (habove : ∀ text ∈ above, member text = false) :
    column.mask range = .ok (List.replicate below.length (some false) ++
      List.replicate inside.length (some true) ++ List.replicate above.length (some false) ++
      List.replicate gaps none) := by
  have hblock : ∀ (texts : List Text) (flag : Bool), (∀ text ∈ texts, member text = flag) →
      (texts.map some).map (Option.map member) = List.replicate texts.length (some flag) := by
    intro texts flag hflag
    rw [List.map_map, List.map_eq_replicate_iff]
    intro text htext
    exact congrArg some (hflag text htext)
  have hmask := mask_eq hcells fun text htext => hmember text (by simpa using htext)
  rw [hmask]
  simp only [List.map_append, List.map_replicate, Option.map_none, hblock below false hbelow,
    hblock inside true hinside, hblock above false habove]

/-- Whatever the direction of sorting, the texts inside an interval stand in one block. -/
theorem exists_block_of_sortedFrom {scheme : Scheme} {answer : Version → Version → Int}
    {versions : Version → Prop} (h : SignPreorderOn answer versions) {i : Interval Version}
    (hi : i.Within versions) {descending : Bool} {given ordered : List Text}
    (hsorted : SortedFrom (precedence scheme (towards descending answer))
      (fun text => versions (scheme.parse text)) given ordered) :
    ∃ below inside above, ordered = below ++ inside ++ above ∧
      (∀ text ∈ below, i.memberBy answer (scheme.parse text) = false) ∧
      (∀ text ∈ inside, i.memberBy answer (scheme.parse text) = true) ∧
      ∀ text ∈ above, i.memberBy answer (scheme.parse text) = false := by
  have hascending : Ascending (towards descending answer) versions (ordered.map scheme.parse) :=
    ⟨List.forall_mem_map.2 hsorted.ascending.within,
      List.pairwise_map.2 hsorted.ascending.pairwise⟩
  cases descending with
  | true =>
    have hturned : Interval.Within versions ⟨i.right, i.left⟩ := ⟨hi.right, hi.left⟩
    rw [← Interval.memberBy_reversed]
    exact Interval.exists_block h.reversed hascending hturned
  | false => exact Interval.exists_block h hascending hi

/-- An interval is one block of a sorted column: of its texts, some stand before the interval, then
come those inside, then some behind it. The gaps stay gaps. -/
theorem mask_sort_block (column : Column) (values : List (Option Text))
    (hcells : column.cells = .texts values) (ref : SchemeRef) (interval : VersionInterval)
    (href : Registry.resolve none ref = .ok interval.scheme) (versions : Version → Prop)
    (horder : TotalPreorderOn interval.scheme.compare versions)
    (hvalues : ∀ text, some text ∈ values → versions (interval.scheme.parse text))
    (hinterval : interval.interval.Within versions) (descending : Bool) :
    ∃ (sorted : Column) (below inside above : List Text),
      column.sort ref descending = .ok sorted ∧
      sorted.cells = .texts ((below ++ inside ++ above).map some ++
        List.replicate (values.count none) none) ∧
      sorted.mask (.ranked interval) = .ok (List.replicate below.length (some false) ++
        List.replicate inside.length (some true) ++ List.replicate above.length (some false) ++
        List.replicate (values.count none) none) := by
  obtain ⟨answer, hanswer, h⟩ := horder
  have htexts : ∀ text ∈ values.filterMap id, versions (interval.scheme.parse text) := by
    simpa using hvalues
  obtain ⟨ordered, hordered, hsorted⟩ := sortTexts_eq hanswer h htexts descending
  have hwithin := hsorted.ascending.within
  obtain ⟨below, inside, above, rfl, hbelow, hinside, habove⟩ :=
    exists_block_of_sortedFrom h hinterval hsorted
  have hdomain : interval.scheme.domain.AnswersOn answer versions := hanswer
  refine ⟨_, below, inside, above, sort_eq hcells href hordered, rfl, ?_⟩
  refine mask_blocks rfl ?_ hbelow hinside habove
  intro text htext
  exact Interval.contains_eq hdomain hinterval (hwithin text htext)

/-- The interval `(1, *)` of the default scheme of semantic versioning leaves out what ties with its
endpoint. -/
theorem mask_sort_block_semver :
    TotalPreorderOn Scheme.semverDefault.compare (fun _ => True) ∧
    ∃ (sorted : Column) (below inside above : List Text),
      (Column.mk "v" (.texts [some ['2'], none, some ['1', '.', '0']])).sort
        (.scheme .semverDefault) false = .ok sorted ∧
      sorted.cells = .texts ((below ++ inside ++ above).map some ++ List.replicate 1 none) ∧
      sorted.mask (.ranked ⟨.semverDefault, ⟨.bounded false (.ofString "1"), .unbounded⟩⟩) =
        .ok (List.replicate below.length (some false) ++
          List.replicate inside.length (some true) ++ List.replicate above.length (some false) ++
          List.replicate 1 none) := by
  have horder := Scheme.totalPreorderOn_semverDefault
  exact ⟨horder, mask_sort_block _ [some ['2'], none, some ['1', '.', '0']] rfl
    (.scheme .semverDefault)
    ⟨.semverDefault, ⟨.bounded false (.ofString "1"), .unbounded⟩⟩ rfl _ horder
    (fun _ _ => trivial) ⟨trivial, trivial⟩ false⟩

end Column

end VersionOrder
