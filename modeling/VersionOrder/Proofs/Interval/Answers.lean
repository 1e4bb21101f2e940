import VersionOrder.Interval.Algebra
import VersionOrder.Proofs.Preorder

/-!
# Intervals over comparisons that answer

Where a domain's comparison answers for the values at hand, no operation on intervals fails, and
each of them is a function of the answers. The main statements give these functions; none of them
asks the answers for an order.

## Main definitions

- `Endpoint.Within`, `Interval.Within`: endpoints with values among the given ones
- `Domain.AnswersOn`: a comparison with known answers
- `Interval.Formed`: the intervals that a domain admits
- `Interval.memberBy`, `Interval.hasRoomBy`, `Interval.meetBy`: the operations on known answers
-/

namespace VersionOrder

variable {α : Type}

/-- An endpoint whose value, if it has one, is among the given ones. -/
def Endpoint.Within (values : α → Prop) : Endpoint α → Prop
  | .unbounded => True
  | .bounded _ value => values value

/-- An interval with both endpoints among the given values. -/
structure Interval.Within (values : α → Prop) (i : Interval α) : Prop where
  /-- The left endpoint is among them. -/
  left : i.left.Within values
  /-- The right endpoint is among them. -/
  right : i.right.Within values

/-- The boundary and the value of an endpoint make it up. -/
theorem Endpoint.make_boundary (side : Side) (e : Endpoint α) :
    make side e.boundary e.value? = .ok e := by
  cases e with
  | unbounded => rfl
  | bounded closed value => cases closed <;> rfl

/-- On the given values, a domain's comparison answers with `answer`. -/
def Domain.AnswersOn (domain : Domain α) (answer : α → α → Int) (values : α → Prop) : Prop :=
  ∀ a b, values a → values b → domain.compare a b = .ok (answer a b)

namespace Interval

variable {domain : Domain α} {answer : α → α → Int} {values : α → Prop}

/-- An interval that can be formed: its boundaries and values pass the checks of its domain. -/
def Formed (domain : Domain α) (i : Interval α) : Prop :=
  ∃ leftBoundary left? rightBoundary right?,
    make domain leftBoundary left? rightBoundary right? = .ok i

/-- Whether a value is not cut off by a left endpoint. -/
def clearsLeft (answer : α → α → Int) : Endpoint α → α → Bool
  | .unbounded, _ => true
  | .bounded closed bound, x => !(answer x bound < 0 || (answer x bound = 0 && !closed))

/-- Whether a value is not cut off by a right endpoint, which is a left one of the reversed
order. -/
def clearsRight (answer : α → α → Int) : Endpoint α → α → Bool :=
  clearsLeft (reversed answer)

/-- Whether a value lies in an interval. -/
def memberBy (answer : α → α → Int) (i : Interval α) (x : α) : Bool :=
  clearsLeft answer i.left x && clearsRight answer i.right x

/-- Whether two endpoints leave room for a value. -/
def hasRoomBy (answer : α → α → Int) : Endpoint α → Endpoint α → Bool
  | .bounded leftClosed a, .bounded rightClosed b =>
    answer a b < 0 || (answer a b = 0 && leftClosed && rightClosed)
  | _, _ => true

/-- The later of two left endpoints. -/
def laterBy (answer : α → α → Int) : Endpoint α → Endpoint α → Endpoint α
  | .unbounded, theirs => theirs
  | mine, .unbounded => mine
  | .bounded mineClosed a, .bounded theirsClosed b =>
    if 0 < answer a b then .bounded mineClosed a
    else if answer a b < 0 then .bounded theirsClosed b
    else .bounded (mineClosed && theirsClosed) a

/-- The earlier of two right endpoints. -/
def earlierBy (answer : α → α → Int) : Endpoint α → Endpoint α → Endpoint α :=
  laterBy (reversed answer)

/-- What two intervals share, if there is room between the endpoints. -/
def meetBy (answer : α → α → Int) (mine theirs : Interval α) : Option (Interval α) :=
  let left := laterBy answer mine.left theirs.left
  let right := earlierBy answer mine.right theirs.right
  if hasRoomBy answer left right then some ⟨left, right⟩ else none

theorem clearsLeft_bounded {closed : Bool} {bound x : α} :
    clearsLeft answer (.bounded closed bound) x = true ↔
      0 < answer x bound ∨ (answer x bound = 0 ∧ closed = true) := by
  cases closed <;> simp [clearsLeft] <;> omega

theorem clearsRight_bounded {closed : Bool} {bound x : α} :
    clearsRight answer (.bounded closed bound) x = true ↔
      answer x bound < 0 ∨ (answer x bound = 0 ∧ closed = true) := by
  rw [clearsRight, clearsLeft_bounded]
  simp [reversed]

theorem hasRoomBy_bounded {leftClosed rightClosed : Bool} {a b : α} :
    hasRoomBy answer (.bounded leftClosed a) (.bounded rightClosed b) = true ↔
      answer a b < 0 ∨ (answer a b = 0 ∧ leftClosed = true ∧ rightClosed = true) := by
  simp [hasRoomBy, and_assoc]

section Answers

variable (h : domain.AnswersOn answer values)

include h

theorem admitsFromLeft_eq {left : Endpoint α} (hleft : left.Within values) {x : α}
    (hx : values x) : admitsFromLeft domain left x = .ok (clearsLeft answer left x) := by
  cases left with
  | unbounded => rfl
  | bounded closed bound =>
    rw [admitsFromLeft, h x bound hx hleft]
    rfl

theorem admitsFromRight_eq {right : Endpoint α} (hright : right.Within values) {x : α}
    (hx : values x) : admitsFromRight domain right x = .ok (clearsRight answer right x) := by
  cases right with
  | unbounded => rfl
  | bounded closed bound =>
    rw [admitsFromRight, h x bound hx hright]
    simp [clearsRight, clearsLeft, reversed, bind, Except.bind, pure, Except.pure]

/-- Membership is a function of the answers. -/
theorem contains_eq {i : Interval α} (hi : i.Within values) {x : α} (hx : values x) :
    contains domain i x = .ok (memberBy answer i x) := by
  rw [contains, admitsFromLeft_eq h hi.left hx, admitsFromRight_eq h hi.right hx, memberBy]
  cases clearsLeft answer i.left x <;> rfl

theorem leavesRoom_eq {left right : Endpoint α} (hleft : left.Within values)
    (hright : right.Within values) :
    leavesRoom domain left right = .ok (hasRoomBy answer left right) := by
  cases left with
  | unbounded => rfl
  | bounded leftClosed a =>
    cases right with
    | unbounded => rfl
    | bounded rightClosed b =>
      rw [leavesRoom, h a b hleft hright]
      rfl

theorem maxLeft_eq {mine theirs : Endpoint α} (hmine : mine.Within values)
    (htheirs : theirs.Within values) :
    maxLeft domain mine theirs = .ok (laterBy answer mine theirs) := by
  cases mine with
  | unbounded => rfl
  | bounded mineClosed a =>
    cases theirs with
    | unbounded => rfl
    | bounded theirsClosed b =>
      simp only [maxLeft, h a b hmine htheirs, laterBy, bind, Except.bind, pure, Except.pure]
      split
      next => rfl
      next => split <;> rfl

theorem minRight_eq {mine theirs : Endpoint α} (hmine : mine.Within values)
    (htheirs : theirs.Within values) :
    minRight domain mine theirs = .ok (earlierBy answer mine theirs) := by
  cases mine with
  | unbounded => rfl
  | bounded mineClosed a =>
    cases theirs with
    | unbounded => rfl
    | bounded theirsClosed b =>
      simp only [minRight, h a b hmine htheirs, earlierBy, laterBy, reversed, Int.neg_pos,
        Int.neg_neg_iff_pos, bind, Except.bind, pure, Except.pure]
      split
      next => rfl
      next => split <;> rfl

/-- Endpoints with room between them form an interval. -/
theorem ofEndpoints_eq {left right : Endpoint α} (hleft : left.Within values)
    (hright : right.Within values) (hroom : hasRoomBy answer left right = true) :
    ofEndpoints domain left right = .ok ⟨left, right⟩ := by
  cases left with
  | unbounded => rfl
  | bounded leftClosed a =>
    cases right with
    | unbounded => rfl
    | bounded rightClosed b =>
      rw [hasRoomBy_bounded] at hroom
      have hle : ¬0 < answer a b := by omega
      have hclosed : ¬(answer a b = 0 ∧ ¬(leftClosed = true ∧ rightClosed = true)) := by
        rintro ⟨htie, hopen⟩
        rcases hroom with hlt | hboth
        · omega
        · exact hopen hboth.2
      simp only [ofEndpoints, h a b hleft hright, bind, Except.bind, pure, Except.pure,
        if_neg hle, if_neg hclosed]

end Answers

theorem within_laterBy {mine theirs : Endpoint α} (hmine : mine.Within values)
    (htheirs : theirs.Within values) : (laterBy answer mine theirs).Within values := by
  cases mine with
  | unbounded => exact htheirs
  | bounded mineClosed a =>
    cases theirs with
    | unbounded => exact hmine
    | bounded theirsClosed b =>
      simp only [laterBy]
      split
      next => exact hmine
      next =>
        split
        next => exact htheirs
        next => exact hmine

theorem within_of_meetBy {mine theirs shared : Interval α} (hmine : mine.Within values)
    (htheirs : theirs.Within values) (h : meetBy answer mine theirs = some shared) :
    shared.Within values := by
  simp only [meetBy] at h
  split at h
  next =>
    cases h
    exact ⟨within_laterBy hmine.left htheirs.left, within_laterBy hmine.right htheirs.right⟩
  next => cases h

/-- Intersection is a function of the answers: what has room is an interval, and the check that
intervals are formed with does not refuse it. -/
theorem tryIntersect_eq (h : domain.AnswersOn answer values) {mine theirs : Interval α}
    (hmine : mine.Within values) (htheirs : theirs.Within values) :
    tryIntersect domain mine theirs = .ok (meetBy answer mine theirs) := by
  have hleft : (laterBy answer mine.left theirs.left).Within values :=
    within_laterBy hmine.left htheirs.left
  have hright : (earlierBy answer mine.right theirs.right).Within values :=
    within_laterBy hmine.right htheirs.right
  simp only [tryIntersect, maxLeft_eq h hmine.left htheirs.left,
    minRight_eq h hmine.right htheirs.right, bind, Except.bind, leavesRoom_eq h hleft hright,
    meetBy]
  split
  next hroom =>
    rw [ofEndpoints_eq h hleft hright hroom]
    rfl
  next => rfl

theorem eq_of_ofEndpoints {left right : Endpoint α} {i : Interval α}
    (h : ofEndpoints domain left right = .ok i) : i = ⟨left, right⟩ := by
  cases left with
  | unbounded => exact (Except.ok.inj h).symm
  | bounded leftClosed a =>
    cases right with
    | unbounded => exact (Except.ok.inj h).symm
    | bounded rightClosed b =>
      simp only [ofEndpoints, bind, Except.bind, pure, Except.pure] at h
      split at h
      next => cases h
      next result =>
        split at h
        next => cases h
        next =>
          split at h
          next => cases h
          next => exact (Except.ok.inj h).symm

/-- Forming an interval is checking its endpoints. -/
theorem formed_iff_ofEndpoints {i : Interval α} :
    i.Formed domain ↔ ofEndpoints domain i.left i.right = .ok i := by
  constructor
  · rintro ⟨leftBoundary, left?, rightBoundary, right?, h⟩
    simp only [make, bind, Except.bind] at h
    split at h
    next => cases h
    next left hleft =>
      split at h
      next => cases h
      next right hright =>
        have hi := eq_of_ofEndpoints h
        subst hi
        exact h
  · intro h
    refine ⟨i.left.boundary, i.left.value?, i.right.boundary, i.right.value?, ?_⟩
    rw [make, Endpoint.make_boundary, Endpoint.make_boundary]
    exact h

/-- Endpoints that pass the checks have room between them. -/
theorem hasRoomBy_of_ofEndpoints (h : domain.AnswersOn answer values) {left right : Endpoint α}
    (hleft : left.Within values) (hright : right.Within values) {i : Interval α}
    (hformed : ofEndpoints domain left right = .ok i) : hasRoomBy answer left right = true := by
  cases left with
  | unbounded => rfl
  | bounded leftClosed a =>
    cases right with
    | unbounded => rfl
    | bounded rightClosed b =>
      simp only [ofEndpoints, h a b hleft hright, bind, Except.bind] at hformed
      rw [hasRoomBy_bounded]
      split at hformed
      next => cases hformed
      next hle =>
        split at hformed
        next => cases hformed
        next hclosed =>
          by_cases htie : answer a b = 0
          · exact .inr ⟨htie, Classical.byContradiction fun hopen => hclosed ⟨htie, hopen⟩⟩
          · exact .inl (by omega)

/-- An interval can be formed exactly if there is room between its endpoints. -/
theorem formed_iff (h : domain.AnswersOn answer values) {i : Interval α} (hi : i.Within values) :
    i.Formed domain ↔ hasRoomBy answer i.left i.right = true :=
  formed_iff_ofEndpoints.trans
    ⟨hasRoomBy_of_ofEndpoints h hi.left hi.right, ofEndpoints_eq h hi.left hi.right⟩

/-- Intervals overlap if they have an intersection. -/
theorem overlaps_eq (h : domain.AnswersOn answer values) {mine theirs : Interval α}
    (hmine : mine.Within values) (htheirs : theirs.Within values) :
    overlaps domain mine theirs = .ok (meetBy answer mine theirs).isSome := by
  rw [overlaps, tryIntersect_eq h hmine htheirs]
  rfl

end Interval

end VersionOrder
