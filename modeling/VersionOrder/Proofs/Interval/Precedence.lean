import VersionOrder.Proofs.Interval.Intersection
import VersionOrder.Proofs.Interval.Narrowing

/-!
# Overlap and precedence

One interval ends before another begins exactly if there is no room from the left endpoint of the
second to the right endpoint of the first, and two intervals overlap exactly if there is room from
every left endpoint to every right one. As there is room inside of each of them, one of the two
crossing rooms is always there: so intervals either overlap or one of them is before the other.

## Main definitions

- `Trichotomous`: two intervals of which exactly one of the three is true
-/

namespace VersionOrder

variable {α ι : Type}

/-- Three questions are answered about `mine` and `theirs`, exactly one of them with yes: whether
they overlap, whether the first precedes the second, and whether the second precedes the first. -/
def Trichotomous (overlaps precedes : ι → ι → Except Fault Bool) (mine theirs : ι) : Prop :=
  ∃ shared before after, overlaps mine theirs = .ok shared ∧ precedes mine theirs = .ok before ∧
    precedes theirs mine = .ok after ∧ [shared, before, after].count true = 1

namespace Interval

variable {domain : Domain α} {answer : α → α → Int} {values : α → Prop}

section Order

variable (h : SignPreorderOn answer values)

include h

/-- From the earlier of two intervals there is room to the other one. -/
theorem hasRoomBy_or_hasRoomBy {mine theirs : Interval α} (hmine : mine.Within values)
    (htheirs : theirs.Within values) (hmineRoom : satisfiableBy answer mine = true)
    (htheirsRoom : satisfiableBy answer theirs = true) :
    hasRoomBy answer mine.left theirs.right = true ∨
      hasRoomBy answer theirs.left mine.right = true := by
  have horder := signPreorderOn_compareLeftBy h
  -- The interval that begins first has as much room up to the end of the other as that one has.
  obtain hle | hge := Int.le_total (compareLeftBy answer mine.left theirs.left) 0
  · exact .inl (hasRoomBy_of_le h hmine.left htheirs.left htheirs.right hle htheirsRoom)
  · have hback := horder.pos_iff hmine.left htheirs.left
    have hforth := horder.pos_iff htheirs.left hmine.left
    exact .inr (hasRoomBy_of_le h htheirs.left hmine.left hmine.right (by omega) hmineRoom)

/-- An interval precedes another one if there is no room from the other one back to it. -/
theorem isStrictlyBefore_eq (hanswer : domain.AnswersOn answer values) {mine theirs : Interval α}
    (hmine : mine.Within values) (htheirs : theirs.Within values) :
    isStrictlyBefore domain mine theirs = .ok (!hasRoomBy answer theirs.left mine.right) := by
  obtain ⟨mineLeft, mineRight⟩ := mine
  obtain ⟨theirsLeft, theirsRight⟩ := theirs
  cases mineRight with
  | unbounded => cases theirsLeft <;> rfl
  | bounded mineClosed a =>
    cases theirsLeft with
    | unbounded => rfl
    | bounded theirsClosed b =>
      have ha : values a := hmine.right
      have hb : values b := htheirs.left
      have hback := h.pos_iff hb ha
      have hforth := h.pos_iff ha hb
      simp only [isStrictlyBefore, hanswer a b ha hb, bind, Except.bind, pure, Except.pure]
      refine congrArg Except.ok ?_
      rw [Bool.eq_iff_iff, Bool.not_eq_true', ← Bool.not_eq_true, hasRoomBy_bounded]
      cases mineClosed <;> cases theirsClosed <;> simp <;> omega

/-- Over a total preorder, formed intervals overlap or one of them precedes the other. -/
theorem count_relations {mine theirs : Interval α} (hmine : mine.Within values)
    (htheirs : theirs.Within values) (hmineRoom : satisfiableBy answer mine = true)
    (htheirsRoom : satisfiableBy answer theirs = true) :
    [(meetBy answer mine theirs).isSome, !hasRoomBy answer theirs.left mine.right,
      !hasRoomBy answer mine.left theirs.right].count true = 1 := by
  rw [meetBy_eq_guard, Option.isSome_guard, satisfiableBy_narrowBy h hmine htheirs, hmineRoom,
    htheirsRoom]
  -- What is left is a table over the two crossing rooms, of which one is there.
  have hone := hasRoomBy_or_hasRoomBy h hmine htheirs hmineRoom htheirsRoom
  revert hone
  cases hasRoomBy answer mine.left theirs.right <;>
    cases hasRoomBy answer theirs.left mine.right <;> decide

end Order

/-- Over a total preorder, intervals either overlap or one of them precedes the other. -/
theorem trichotomous (h : TotalPreorderOn domain.compare values) {mine theirs : Interval α}
    (hmine : mine.Within values) (htheirs : theirs.Within values) (hmineFormed : mine.Formed domain)
    (htheirsFormed : theirs.Formed domain) :
    Trichotomous (overlaps domain) (isStrictlyBefore domain) mine theirs := by
  obtain ⟨answer, hanswer, horder⟩ := h
  have hmineRoom := (formed_iff hanswer hmine).1 hmineFormed
  have htheirsRoom := (formed_iff hanswer htheirs).1 htheirsFormed
  exact ⟨_, _, _, overlaps_eq hanswer hmine htheirs,
    isStrictlyBefore_eq horder hanswer hmine htheirs,
    isStrictlyBefore_eq horder hanswer htheirs hmine,
    count_relations horder hmine htheirs hmineRoom htheirsRoom⟩

end Interval

/-- Spans of one order overlap if their intervals do. -/
theorem Span.overlaps_eq (order : SpanOrder) (mine theirs : Interval Scalar) :
    Span.overlaps ⟨order, mine⟩ ⟨order, theirs⟩ = mine.overlaps order.domain theirs := by
  rw [Span.overlaps, Span.tryIntersect_eq, Interval.overlaps]
  cases mine.tryIntersect order.domain theirs with
  | error fault => rfl
  | ok shared? => cases shared? <;> rfl

/-- Over every total preorder, two formed intervals either overlap or one of them is strictly before
the other, and only one of the three: intervals over any domain, and spans of one order. -/
theorem overlap_trichotomy :
    (∀ (α : Type) (domain : Domain α) (values : α → Prop) (mine theirs : Interval α),
      TotalPreorderOn domain.compare values → mine.Within values → theirs.Within values →
        mine.Formed domain → theirs.Formed domain →
        Trichotomous (Interval.overlaps domain) (Interval.isStrictlyBefore domain) mine theirs) ∧
    (∀ (order : SpanOrder) (values : Scalar → Prop) (mine theirs : Interval Scalar),
      TotalPreorderOn order.domain.compare values → mine.Within values → theirs.Within values →
        mine.Formed order.domain → theirs.Formed order.domain →
        Trichotomous Span.overlaps Span.isStrictlyBefore ⟨order, mine⟩ ⟨order, theirs⟩) := by
  constructor
  · intro α domain values mine theirs h hmine htheirs hmineFormed htheirsFormed
    exact Interval.trichotomous h hmine htheirs hmineFormed htheirsFormed
  · intro order values mine theirs h hmine htheirs hmineFormed htheirsFormed
    obtain ⟨shared, before, after, hshared, hbefore, hafter, hcount⟩ :=
      Interval.trichotomous h hmine htheirs hmineFormed htheirsFormed
    exact ⟨shared, before, after, (Span.overlaps_eq order mine theirs).trans hshared, hbefore,
      hafter, hcount⟩

/-- The default scheme of semantic versioning is such an order: `[1, 2]` and `(2.0, *)` are in
exactly one of the three relations, although they touch. -/
theorem overlap_trichotomy_semver :
    TotalPreorderOn Scheme.semverDefault.compare (fun _ => True) ∧
    Trichotomous (Interval.overlaps Scheme.semverDefault.domain)
      (Interval.isStrictlyBefore Scheme.semverDefault.domain)
      ⟨.bounded true (.ofString "1"), .bounded true (.ofString "2")⟩
      ⟨.bounded false (.ofString "2.0"), .unbounded⟩ ∧
    Trichotomous Span.overlaps Span.isStrictlyBefore
      ⟨.ranked .semverDefault,
        ⟨.bounded true (.version (.ofString "1")), .bounded true (.version (.ofString "2"))⟩⟩
      ⟨.ranked .semverDefault, ⟨.bounded false (.version (.ofString "2.0")), .unbounded⟩⟩ := by
  have horder := Scheme.totalPreorderOn_semverDefault
  have hdomain : TotalPreorderOn Scheme.semverDefault.domain.compare fun _ => True := horder
  refine ⟨horder, ?_, ?_⟩
  · refine overlap_trichotomy.1 _ _ _ _ _ hdomain ⟨trivial, trivial⟩ ⟨trivial, trivial⟩ ?_ ?_
    · exact ⟨.inclusive, some (.ofString "1"), .inclusive, some (.ofString "2"), rfl⟩
    · exact ⟨.exclusive, some (.ofString "2.0"), .unbounded, none, rfl⟩
  · refine overlap_trichotomy.2 _ _ _ _ (SpanOrder.totalPreorderOn_ranked horder)
      ⟨⟨_, rfl, trivial⟩, ⟨_, rfl, trivial⟩⟩ ⟨⟨_, rfl, trivial⟩, trivial⟩ ?_ ?_
    · exact ⟨.inclusive, some (.version (.ofString "1")), .inclusive,
        some (.version (.ofString "2")), rfl⟩
    · exact ⟨.exclusive, some (.version (.ofString "2.0")), .unbounded, none, rfl⟩

end VersionOrder
