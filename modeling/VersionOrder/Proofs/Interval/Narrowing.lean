import VersionOrder.Proofs.Interval.EndpointOrder

/-!
# Narrowing

Two intervals are narrowed to what lies between the later of their left endpoints and the earlier of
their right ones; they share it if there is room there. Narrowing answers the same however intervals
are ordered and grouped, but for ties: where endpoints tie, it shows the value of the first one.

## Main definitions

- `Interval.narrowBy`: the endpoints between which lies what two intervals share
- `Interval.satisfiableBy`: whether there is room between the endpoints of an interval
- `Interval.Ties`: intervals with endpoints that tie
- `Interval.whole`: the interval without bounds
-/

namespace VersionOrder

namespace Interval

variable {α : Type} {answer : α → α → Int} {values : α → Prop}

/-- The endpoints between which lies what two intervals share. -/
def narrowBy (answer : α → α → Int) (mine theirs : Interval α) : Interval α :=
  ⟨laterBy answer mine.left theirs.left, earlierBy answer mine.right theirs.right⟩

/-- Whether there is room between the endpoints of an interval. -/
def satisfiableBy (answer : α → α → Int) (i : Interval α) : Bool :=
  hasRoomBy answer i.left i.right

/-- Intervals with endpoints that tie. -/
structure Ties (answer : α → α → Int) (mine theirs : Interval α) : Prop where
  /-- The left endpoints tie. -/
  left : compareLeftBy answer mine.left theirs.left = 0
  /-- The right endpoints tie. -/
  right : compareLeftBy (reversed answer) mine.right theirs.right = 0

/-- The interval without bounds. -/
def whole : Interval α :=
  ⟨.unbounded, .unbounded⟩

/-- What two intervals share is what they are narrowed to, if there is room there. -/
theorem meetBy_eq_guard (mine theirs : Interval α) :
    meetBy answer mine theirs =
      Option.guard (satisfiableBy answer) (narrowBy answer mine theirs) := rfl

theorem within_narrowBy {mine theirs : Interval α} (hmine : mine.Within values)
    (htheirs : theirs.Within values) : (narrowBy answer mine theirs).Within values := by
  constructor
  · exact within_laterBy hmine.left htheirs.left
  · exact within_laterBy hmine.right htheirs.right

theorem within_whole : (whole : Interval α).Within values :=
  ⟨trivial, trivial⟩

theorem laterBy_unbounded (e : Endpoint α) : laterBy answer e .unbounded = e := by
  cases e <;> rfl

theorem narrowBy_whole (i : Interval α) : narrowBy answer i whole = i := by
  have hleft : laterBy answer i.left .unbounded = i.left := laterBy_unbounded i.left
  have hright : earlierBy answer i.right .unbounded = i.right := laterBy_unbounded i.right
  rw [narrowBy, whole, hleft, hright]

section Order

variable (h : SignPreorderOn answer values)

include h

theorem narrowBy_self {i : Interval α} (hi : i.Within values) : narrowBy answer i i = i := by
  have hleft : laterBy answer i.left i.left = i.left := laterBy_self h hi.left
  have hright : earlierBy answer i.right i.right = i.right := laterBy_self h.reversed hi.right
  rw [narrowBy, hleft, hright]

theorem narrowBy_comm {mine theirs : Interval α} (hmine : mine.Within values)
    (htheirs : theirs.Within values) :
    Ties answer (narrowBy answer mine theirs) (narrowBy answer theirs mine) := by
  constructor
  · exact laterBy_comm h hmine.left htheirs.left
  · exact laterBy_comm h.reversed hmine.right htheirs.right

theorem narrowBy_assoc {a b c : Interval α} (ha : a.Within values) (hb : b.Within values)
    (hc : c.Within values) :
    Ties answer (narrowBy answer (narrowBy answer a b) c)
      (narrowBy answer a (narrowBy answer b c)) := by
  constructor
  · exact laterBy_assoc h ha.left hb.left hc.left
  · exact laterBy_assoc h.reversed ha.right hb.right hc.right

theorem Ties.refl {i : Interval α} (hi : i.Within values) : Ties answer i i := by
  constructor
  · exact (signPreorderOn_compareLeftBy h).self hi.left
  · exact (signPreorderOn_compareLeftBy h.reversed).self hi.right

theorem Ties.symm {mine theirs : Interval α} (hmine : mine.Within values)
    (htheirs : theirs.Within values) (hties : Ties answer mine theirs) :
    Ties answer theirs mine := by
  have hlefts := signPreorderOn_compareLeftBy h
  have hrights := signPreorderOn_compareLeftBy h.reversed
  constructor
  · exact (hlefts.eq_zero_iff hmine.left htheirs.left).1 hties.left
  · exact (hrights.eq_zero_iff hmine.right htheirs.right).1 hties.right

theorem satisfiableBy_of_ties {mine theirs : Interval α} (hmine : mine.Within values)
    (htheirs : theirs.Within values) (hties : Ties answer mine theirs)
    (hroom : satisfiableBy answer theirs = true) : satisfiableBy answer mine = true := by
  -- The left endpoint is exchanged first, then the right one, seen from the other end.
  have hexchanged : hasRoomBy answer mine.left theirs.right = true :=
    hasRoomBy_of_le h hmine.left htheirs.left htheirs.right (Int.le_of_eq hties.left) hroom
  rw [satisfiableBy, ← hasRoomBy_reversed h hmine.left hmine.right]
  rw [← hasRoomBy_reversed h hmine.left htheirs.right] at hexchanged
  exact hasRoomBy_of_le h.reversed hmine.right htheirs.right hmine.left
    (Int.le_of_eq hties.right) hexchanged

/-- Between endpoints that tie there is as much room. -/
theorem satisfiableBy_eq_of_ties {mine theirs : Interval α} (hmine : mine.Within values)
    (htheirs : theirs.Within values) (hties : Ties answer mine theirs) :
    satisfiableBy answer mine = satisfiableBy answer theirs := by
  rw [Bool.eq_iff_iff]
  constructor
  · exact satisfiableBy_of_ties h htheirs hmine (hties.symm h hmine htheirs)
  · exact satisfiableBy_of_ties h hmine htheirs hties

/-- There is room for what two intervals share exactly if there is room from either left endpoint to
either right one. -/
theorem satisfiableBy_narrowBy {mine theirs : Interval α} (hmine : mine.Within values)
    (htheirs : theirs.Within values) :
    satisfiableBy answer (narrowBy answer mine theirs) =
      ((satisfiableBy answer mine && satisfiableBy answer theirs) &&
        (hasRoomBy answer mine.left theirs.right && hasRoomBy answer theirs.left mine.right)) := by
  have hearlier : (earlierBy answer mine.right theirs.right).Within values :=
    within_laterBy hmine.right htheirs.right
  simp only [satisfiableBy, narrowBy]
  rw [hasRoomBy_laterBy h hmine.left htheirs.left hearlier,
    hasRoomBy_earlierBy h hmine.left hmine.right htheirs.right,
    hasRoomBy_earlierBy h htheirs.left hmine.right htheirs.right]
  ac_rfl

/-- Where there is no room in one of two intervals, there is none in what they are narrowed to. -/
theorem satisfiableBy_of_narrowBy {mine theirs : Interval α} (hmine : mine.Within values)
    (htheirs : theirs.Within values)
    (hroom : satisfiableBy answer (narrowBy answer mine theirs) = true) :
    satisfiableBy answer mine = true ∧ satisfiableBy answer theirs = true := by
  rw [satisfiableBy_narrowBy h hmine htheirs] at hroom
  obtain ⟨hboth, _⟩ := Bool.and_eq_true_iff.1 hroom
  exact Bool.and_eq_true_iff.1 hboth

end Order

end Interval

end VersionOrder
