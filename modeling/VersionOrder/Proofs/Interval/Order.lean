import VersionOrder.Proofs.Interval.Meet
import VersionOrder.Proofs.Interval.Precedence

/-!
# The order of intervals

Intervals are ordered by their left endpoints, then by their right ones. Over a total preorder of
the values this is a total preorder, and over a linear order exactly the equal intervals tie. To end
before another interval begins is a strict order contained in it: an interval with room in it cannot
reach back over one that it precedes.

## Main definitions

- `Interval.compareRightBy`, `Interval.compareBy`: the orders on known answers
- `Interval.precedesBy`: precedence on known answers
- `StrictOrderWithin`: a strict order contained in an order by sign
-/

namespace VersionOrder

variable {α ι κ : Type}

namespace Interval

variable {domain : Domain α} {answer : α → α → Int} {same : α → α → Bool} {values : α → Prop}

/-- The order of right endpoints, which are left ones of the reversed order. -/
def compareRightBy (answer : α → α → Int) : Endpoint α → Endpoint α → Int :=
  reversed (compareLeftBy (reversed answer))

/-- The order of intervals: by left endpoint, then by right endpoint. -/
def compareBy (answer : α → α → Int) (mine theirs : Interval α) : Int :=
  if compareLeftBy answer mine.left theirs.left = 0 then
    compareRightBy answer mine.right theirs.right
  else compareLeftBy answer mine.left theirs.left

/-- Whether an interval ends before another begins: there is no room from the other one back. -/
def precedesBy (answer : α → α → Int) (mine theirs : Interval α) : Bool :=
  !hasRoomBy answer theirs.left mine.right

/-- The order of right endpoints is a function of the answers. -/
theorem compareRight_eq (h : domain.AnswersOn answer values) {mine theirs : Endpoint α}
    (hmine : mine.Within values) (htheirs : theirs.Within values) :
    compareRight domain mine theirs = .ok (compareRightBy answer mine theirs) := by
  cases mine with
  | unbounded => cases theirs <;> rfl
  | bounded mineClosed a =>
    cases theirs with
    | unbounded => rfl
    | bounded theirsClosed b =>
      rw [compareRight, h a b hmine htheirs, compareRightBy, reversed]
      by_cases htie : answer a b = 0
      · have hzero : reversed answer a b = 0 := Int.neg_eq_zero.2 htie
        rw [compareLeftBy_of_eq hzero, htie]
        cases mineClosed <;> cases theirsClosed <;> rfl
      · have hne : reversed answer a b ≠ 0 := fun hzero => htie (Int.neg_eq_zero.1 hzero)
        rw [compareLeftBy_of_ne hne, reversed, Int.neg_neg]
        exact if_pos htie

/-- The order of intervals is a function of the answers. -/
theorem compare_eq (h : domain.AnswersOn answer values) {mine theirs : Interval α}
    (hmine : mine.Within values) (htheirs : theirs.Within values) :
    compare domain mine theirs = .ok (compareBy answer mine theirs) := by
  rw [compare, compareLeft_eq h hmine.left htheirs.left,
    compareRight_eq h hmine.right htheirs.right, compareBy]
  by_cases htie : compareLeftBy answer mine.left theirs.left = 0
  · rw [if_pos htie, htie]
    rfl
  · rw [if_neg htie]
    exact if_pos htie

/-- Intervals tie exactly if their endpoints do. -/
theorem compareBy_eq_zero_iff {mine theirs : Interval α} :
    compareBy answer mine theirs = 0 ↔ Ties answer mine theirs := by
  constructor
  · intro hzero
    by_cases htie : compareLeftBy answer mine.left theirs.left = 0
    · rw [compareBy, if_pos htie] at hzero
      exact ⟨htie, Int.neg_eq_zero.1 hzero⟩
    · rw [compareBy, if_neg htie] at hzero
      exact absurd hzero htie
  · intro hties
    rw [compareBy, if_pos hties.left]
    exact Int.neg_eq_zero.2 hties.right

theorem tie_of_endpoint_sameBy
    (htie : ∀ a b, values a → values b → same a b = true → answer a b = 0)
    {mine theirs : Endpoint α} (hmine : mine.Within values) (htheirs : theirs.Within values)
    (hsame : mine.sameBy same theirs = true) : compareLeftBy answer mine theirs = 0 := by
  cases mine with
  | unbounded =>
    cases theirs with
    | unbounded => rfl
    | bounded theirsClosed b => cases hsame
  | bounded mineClosed a =>
    cases theirs with
    | unbounded => cases hsame
    | bounded theirsClosed b =>
      simp only [Endpoint.sameBy, Bool.and_eq_true, decide_eq_true_eq] at hsame
      rw [compareLeftBy_of_eq (htie a b hmine htheirs hsame.2), hsame.1]
      exact signum_self _

/-- If equal values tie, equal intervals do. -/
theorem ties_of_sameBy (htie : ∀ a b, values a → values b → same a b = true → answer a b = 0)
    {mine theirs : Interval α} (hmine : mine.Within values) (htheirs : theirs.Within values)
    (hsame : mine.sameBy same theirs = true) : Ties answer mine theirs := by
  obtain ⟨hleft, hright⟩ := Bool.and_eq_true_iff.1 hsame
  constructor
  · exact tie_of_endpoint_sameBy htie hmine.left htheirs.left hleft
  · refine tie_of_endpoint_sameBy ?_ hmine.right htheirs.right hright
    intro a b ha hb hab
    exact Int.neg_eq_zero.2 (htie a b ha hb hab)

section Order

variable (h : SignPreorderOn answer values)

include h

theorem signPreorderOn_compareRightBy :
    SignPreorderOn (compareRightBy answer) fun e => e.Within values :=
  (signPreorderOn_compareLeftBy h.reversed).reversed

/-- Intervals are totally ordered. -/
theorem signPreorderOn_compareBy :
    SignPreorderOn (compareBy answer) fun i => i.Within values := by
  have hlefts := ((signPreorderOn_compareLeftBy h).comap Interval.left).mono
    (fun i => i.Within values) fun _ hi => hi.left
  have hrights := ((signPreorderOn_compareRightBy h).comap Interval.right).mono
    (fun i => i.Within values) fun _ hi => hi.right
  exact hlefts.lex hrights

/-- What begins no later than an interval that can have a member does not end before it. -/
theorem precedesBy_eq_false_of_le {mine theirs : Interval α} (hmine : mine.Within values)
    (htheirs : theirs.Within values) (hroom : satisfiableBy answer mine = true)
    (hle : compareLeftBy answer theirs.left mine.left ≤ 0) :
    precedesBy answer mine theirs = false := by
  have hback := hasRoomBy_of_le h htheirs.left hmine.left hmine.right hle hroom
  rw [precedesBy, hback]
  rfl

/-- An interval that precedes another one begins before it. -/
theorem compareBy_neg_of_precedesBy {mine theirs : Interval α} (hmine : mine.Within values)
    (htheirs : theirs.Within values) (hroom : satisfiableBy answer mine = true)
    (hbefore : precedesBy answer mine theirs = true) : compareBy answer mine theirs < 0 := by
  have horder := signPreorderOn_compareLeftBy h
  have hneg : compareLeftBy answer mine.left theirs.left < 0 := by
    rw [← horder.pos_iff htheirs.left hmine.left]
    refine Int.not_le.1 fun hle => ?_
    rw [precedesBy_eq_false_of_le h hmine htheirs hroom hle] at hbefore
    cases hbefore
  rw [compareBy, if_neg (Int.ne_of_lt hneg)]
  exact hneg

/-- An interval that can have a member does not reach back over one that it precedes. -/
theorem precedesBy_trans {a b c : Interval α} (ha : a.Within values) (hb : b.Within values)
    (hc : c.Within values) (hroom : satisfiableBy answer b = true)
    (hab : precedesBy answer a b = true) (hbc : precedesBy answer b c = true) :
    precedesBy answer a c = true := by
  have horder := signPreorderOn_compareLeftBy h
  rw [precedesBy, Bool.not_eq_true'] at hab ⊢
  -- The last interval begins after the middle one, so it leaves no more room to the first.
  have hlater : compareLeftBy answer b.left c.left ≤ 0 := by
    refine Int.not_lt.1 fun hpos => ?_
    have hle := Int.le_of_lt ((horder.pos_iff hb.left hc.left).1 hpos)
    rw [precedesBy_eq_false_of_le h hb hc hroom hle] at hbc
    cases hbc
  refine Bool.eq_false_iff.2 fun hback => ?_
  rw [hasRoomBy_of_le h hb.left hc.left ha.right hlater hback] at hab
  cases hab

end Order

/-- Over a total preorder of the values, intervals are totally preordered. -/
theorem totalPreorderOn_compare (h : TotalPreorderOn domain.compare values) :
    TotalPreorderOn (compare domain) fun i => i.Within values := by
  obtain ⟨answer, hanswer, horder⟩ := h
  refine ⟨compareBy answer, ?_, signPreorderOn_compareBy horder⟩
  intro mine theirs hmine htheirs
  exact compare_eq hanswer hmine htheirs

/-- Over a linear order of the values, intervals are linearly ordered. -/
theorem linearOrderOn_compare (h : LinearOrderOn domain.compare same values) :
    LinearOrderOn (compare domain) (sameBy same) fun i => i.Within values := by
  obtain ⟨answer, hanswer, _, hsame⟩ := h.answers
  have htie : ∀ a b, values a → values b → same a b = true → answer a b = 0 := by
    intro a b ha hb hab
    exact Except.ok.inj ((hanswer a b ha hb).symm.trans ((h.tie_iff ha hb).2 hab))
  refine ⟨totalPreorderOn_compare h.preorder, ?_⟩
  intro mine theirs hmine htheirs
  rw [compare_eq hanswer hmine htheirs, Except.ok.injEq, compareBy_eq_zero_iff]
  exact ⟨sameBy_of_ties hsame hmine htheirs, ties_of_sameBy htie hmine htheirs⟩

end Interval

/-- On the given intervals, `precedes` answers and is a strict order, contained in the order by
`compare`. -/
structure StrictOrderWithin (precedes : ι → ι → Except Fault Bool)
    (compare : ι → ι → Except Fault Int) (intervals : ι → Prop) : Prop where
  /-- The question is answered. -/
  answers : ∀ {a b}, intervals a → intervals b → ∃ before, precedes a b = .ok before
  /-- No interval precedes itself. -/
  irrefl : ∀ {a}, intervals a → precedes a a = .ok false
  /-- What precedes a second interval precedes a third one that the second precedes. -/
  trans : ∀ {a b c}, intervals a → intervals b → intervals c → precedes a b = .ok true →
    precedes b c = .ok true → precedes a c = .ok true
  /-- An interval that precedes another one comes before it in the order of intervals. -/
  compare_neg : ∀ {a b}, intervals a → intervals b → precedes a b = .ok true →
    ∃ r, compare a b = .ok r ∧ r < 0

/-- Intervals that are compared as their keys are obey the same laws. -/
theorem StrictOrderWithin.comap {precedes : ι → ι → Except Fault Bool}
    {compare : ι → ι → Except Fault Int} {intervals : ι → Prop}
    {precedesKeyed : κ → κ → Except Fault Bool} {compareKeyed : κ → κ → Except Fault Int}
    {keyed : κ → Prop} (h : StrictOrderWithin precedes compare intervals) (key : κ → ι)
    (hkey : ∀ k, keyed k → intervals (key k))
    (hprecedes : ∀ k l, keyed k → keyed l → precedesKeyed k l = precedes (key k) (key l))
    (hcompare : ∀ k l, keyed k → keyed l → compareKeyed k l = compare (key k) (key l)) :
    StrictOrderWithin precedesKeyed compareKeyed keyed := by
  constructor
  · intro k l hk hl
    rw [hprecedes k l hk hl]
    exact h.answers (hkey k hk) (hkey l hl)
  · intro k hk
    rw [hprecedes k k hk hk]
    exact h.irrefl (hkey k hk)
  · intro k l m hk hl hm
    rw [hprecedes k l hk hl, hprecedes l m hl hm, hprecedes k m hk hm]
    exact h.trans (hkey k hk) (hkey l hl) (hkey m hm)
  · intro k l hk hl
    rw [hprecedes k l hk hl, hcompare k l hk hl]
    exact h.compare_neg (hkey k hk) (hkey l hl)

/-- Over a total preorder of the values, precedence of formed intervals is a strict order within
their order. -/
theorem Interval.strictOrderWithin {domain : Domain α} {values : α → Prop}
    (h : TotalPreorderOn domain.compare values) :
    StrictOrderWithin (isStrictlyBefore domain) (compare domain)
      fun i => i.Within values ∧ i.Formed domain := by
  obtain ⟨answer, hanswer, horder⟩ := h
  have hprecedes : ∀ {a b : Interval α}, a.Within values → b.Within values →
      isStrictlyBefore domain a b = .ok (precedesBy answer a b) :=
    fun ha hb => isStrictlyBefore_eq horder hanswer ha hb
  have hroom : ∀ {i : Interval α}, i.Within values → i.Formed domain →
      satisfiableBy answer i = true :=
    fun hi => (formed_iff hanswer hi).1
  constructor
  · rintro a b ⟨ha, _⟩ ⟨hb, _⟩
    exact ⟨_, hprecedes ha hb⟩
  · rintro a ⟨ha, haFormed⟩
    have hself := (signPreorderOn_compareLeftBy horder).self ha.left
    rw [hprecedes ha ha,
      precedesBy_eq_false_of_le horder ha ha (hroom ha haFormed) (Int.le_of_eq hself)]
  · rintro a b c ⟨ha, _⟩ ⟨hb, hbFormed⟩ ⟨hc, _⟩
    rw [hprecedes ha hb, hprecedes hb hc, hprecedes ha hc]
    simp only [Except.ok.injEq]
    exact precedesBy_trans horder ha hb hc (hroom hb hbFormed)
  · rintro a b ⟨ha, haFormed⟩ ⟨hb, _⟩ hbefore
    rw [hprecedes ha hb, Except.ok.injEq] at hbefore
    exact ⟨_, compare_eq hanswer ha hb,
      compareBy_neg_of_precedesBy horder ha hb (hroom ha haFormed) hbefore⟩

namespace Span

variable {order : SpanOrder} {values : Scalar → Prop}

/-- Over a total preorder of scalars, spans are totally preordered. -/
theorem totalPreorderOn_compare (h : TotalPreorderOn order.domain.compare values) :
    TotalPreorderOn compare fun span => span.order = order ∧ span.interval.Within values := by
  refine (Interval.totalPreorderOn_compare h).comap interval (fun _ hspan => hspan.2) ?_
  rintro mine theirs ⟨rfl, _⟩ _
  rfl

/-- Over a linear order of scalars, spans are linearly ordered. -/
theorem linearOrderOn_compare (h : LinearOrderOn order.domain.compare Scalar.same values) :
    LinearOrderOn compare same fun span => span.order = order ∧ span.interval.Within values := by
  refine ⟨totalPreorderOn_compare h.preorder, ?_⟩
  rintro ⟨_, mine⟩ ⟨_, theirs⟩ ⟨rfl, hmine⟩ ⟨rfl, htheirs⟩
  rw [same_eq]
  exact (Interval.linearOrderOn_compare h).tie_iff hmine htheirs

/-- Over a total preorder of scalars, precedence of formed spans is a strict order within their
order. -/
theorem strictOrderWithin (h : TotalPreorderOn order.domain.compare values) :
    StrictOrderWithin isStrictlyBefore compare fun span =>
      span.order = order ∧ span.interval.Within values ∧ span.interval.Formed order.domain := by
  refine (Interval.strictOrderWithin h).comap interval (fun _ hspan => hspan.2) ?_ ?_
  · rintro mine theirs ⟨rfl, _⟩ _
    rfl
  · rintro mine theirs ⟨rfl, _⟩ _
    rfl

end Span

/-- Over every total preorder of the values, the order of intervals is a total preorder, and over
every linear order exactly the equal intervals tie: intervals over any domain, and spans of one
order. Whether the intervals can be formed makes no difference. -/
theorem interval_ordering :
    (∀ (α : Type) (domain : Domain α) (values : α → Prop),
      (TotalPreorderOn domain.compare values →
        TotalPreorderOn (Interval.compare domain) fun i => i.Within values) ∧
      ∀ same, LinearOrderOn domain.compare same values →
        LinearOrderOn (Interval.compare domain) (Interval.sameBy same) fun i => i.Within values) ∧
    (∀ (order : SpanOrder) (values : Scalar → Prop),
      (TotalPreorderOn order.domain.compare values →
        TotalPreorderOn Span.compare
          fun span => span.order = order ∧ span.interval.Within values) ∧
      (LinearOrderOn order.domain.compare Scalar.same values →
        LinearOrderOn Span.compare Span.same
          fun span => span.order = order ∧ span.interval.Within values)) := by
  constructor
  · intro α domain values
    exact ⟨Interval.totalPreorderOn_compare, fun _ => Interval.linearOrderOn_compare⟩
  · intro order values
    exact ⟨Span.totalPreorderOn_compare, Span.linearOrderOn_compare⟩

/-- The default scheme of semantic versioning orders intervals in this way, and so do numbers in
their own order, where `[1, *)` and `[True, *)` tie as they are equal. -/
theorem interval_ordering_natural :
    TotalPreorderOn Scheme.semverDefault.compare (fun _ => True) ∧
    TotalPreorderOn (Interval.compare Scheme.semverDefault.domain)
      (fun i => i.Within fun _ => True) ∧
    LinearOrderOn Scalar.natural.compare Scalar.same Scalar.Sized ∧
    Interval.compare Scalar.natural ⟨.bounded true (.integer 1), .unbounded⟩
      ⟨.bounded true (.boolean true), .unbounded⟩ = .ok 0 ∧
    Span.compare ⟨.natural, ⟨.bounded true (.integer 1), .unbounded⟩⟩
      ⟨.natural, ⟨.bounded true (.boolean true), .unbounded⟩⟩ = .ok 0 := by
  have horder := Scheme.totalPreorderOn_semverDefault
  have hlinear := Scalar.linearOrderOn_natural
  have hone : Interval.Within Scalar.Sized ⟨.bounded true (.integer 1), .unbounded⟩ :=
    ⟨⟨.integer 1, rfl, trivial⟩, trivial⟩
  have htrue : Interval.Within Scalar.Sized ⟨.bounded true (.boolean true), .unbounded⟩ :=
    ⟨⟨.integer 1, rfl, trivial⟩, trivial⟩
  refine ⟨horder, (interval_ordering.1 _ _ _).1 horder, hlinear, ?_, ?_⟩
  · exact (((interval_ordering.1 _ _ _).2 _ hlinear).tie_iff hone htrue).2 rfl
  · exact (((interval_ordering.2 .natural _).2 hlinear).tie_iff ⟨rfl, hone⟩ ⟨rfl, htrue⟩).2 rfl

/-- Over every total preorder of the values, to be strictly before another interval is a strict
partial order of the intervals that can be formed, contained in their order: intervals over any
domain, and spans of one order. -/
theorem precedence_within_ordering :
    (∀ (α : Type) (domain : Domain α) (values : α → Prop),
      TotalPreorderOn domain.compare values →
        StrictOrderWithin (Interval.isStrictlyBefore domain) (Interval.compare domain)
          fun i => i.Within values ∧ i.Formed domain) ∧
    (∀ (order : SpanOrder) (values : Scalar → Prop),
      TotalPreorderOn order.domain.compare values →
        StrictOrderWithin Span.isStrictlyBefore Span.compare fun span =>
          span.order = order ∧ span.interval.Within values ∧
            span.interval.Formed order.domain) := by
  constructor
  · intro α domain values h
    exact Interval.strictOrderWithin h
  · intro order values h
    exact Span.strictOrderWithin h

/-- Under the default scheme of semantic versioning, `[1, 2]` precedes `(2.0, 3)`, and this precedes
`[3.0, *)`, although they touch; so the first precedes the last and comes before it. -/
theorem precedence_within_ordering_semver :
    TotalPreorderOn Scheme.semverDefault.compare (fun _ => True) ∧
    Interval.isStrictlyBefore Scheme.semverDefault.domain
      ⟨.bounded true (.ofString "1"), .bounded true (.ofString "2")⟩
      ⟨.bounded false (.ofString "2.0"), .bounded false (.ofString "3")⟩ = .ok true ∧
    Interval.isStrictlyBefore Scheme.semverDefault.domain
      ⟨.bounded false (.ofString "2.0"), .bounded false (.ofString "3")⟩
      ⟨.bounded true (.ofString "3.0"), .unbounded⟩ = .ok true ∧
    Interval.isStrictlyBefore Scheme.semverDefault.domain
      ⟨.bounded true (.ofString "1"), .bounded true (.ofString "2")⟩
      ⟨.bounded true (.ofString "3.0"), .unbounded⟩ = .ok true ∧
    (∃ r, Interval.compare Scheme.semverDefault.domain
      ⟨.bounded true (.ofString "1"), .bounded true (.ofString "2")⟩
      ⟨.bounded true (.ofString "3.0"), .unbounded⟩ = .ok r ∧ r < 0) ∧
    Span.isStrictlyBefore ⟨.ranked .semverDefault, ⟨.bounded true (.version (.ofString "3.0")),
      .unbounded⟩⟩ ⟨.ranked .semverDefault, ⟨.bounded true (.version (.ofString "3.0")),
      .unbounded⟩⟩ = .ok false := by
  have horder := Scheme.totalPreorderOn_semverDefault
  have hstrict := precedence_within_ordering.1 _ Scheme.semverDefault.domain _ horder
  have hfirst : Interval.Formed Scheme.semverDefault.domain
      ⟨.bounded true (.ofString "1"), .bounded true (.ofString "2")⟩ :=
    ⟨.inclusive, some (.ofString "1"), .inclusive, some (.ofString "2"), rfl⟩
  have hmiddle : Interval.Formed Scheme.semverDefault.domain
      ⟨.bounded false (.ofString "2.0"), .bounded false (.ofString "3")⟩ :=
    ⟨.exclusive, some (.ofString "2.0"), .exclusive, some (.ofString "3"), rfl⟩
  have hlast : Interval.Formed Scheme.semverDefault.domain
      ⟨.bounded true (.ofString "3.0"), .unbounded⟩ :=
    ⟨.inclusive, some (.ofString "3.0"), .unbounded, none, rfl⟩
  have hall : ∀ i : Interval Version, i.Within fun _ => True := by
    rintro ⟨left, right⟩
    exact ⟨by cases left <;> trivial, by cases right <;> trivial⟩
  have hbefore := hstrict.trans ⟨hall _, hfirst⟩ ⟨hall _, hmiddle⟩ ⟨hall _, hlast⟩ rfl rfl
  refine ⟨horder, rfl, rfl, hbefore, ?_, ?_⟩
  · exact hstrict.compare_neg ⟨hall _, hfirst⟩ ⟨hall _, hlast⟩ hbefore
  · refine (precedence_within_ordering.2 (.ranked .semverDefault) _
      (SpanOrder.totalPreorderOn_ranked horder)).irrefl ⟨rfl, ⟨⟨_, rfl, trivial⟩, trivial⟩, ?_⟩
    exact ⟨.inclusive, some (.version (.ofString "3.0")), .unbounded, none, rfl⟩

end VersionOrder
