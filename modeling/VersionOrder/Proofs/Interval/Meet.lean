import VersionOrder.Interval.Shape
import VersionOrder.Proofs.Interval.Intersection
import VersionOrder.Proofs.Interval.Narrowing
import VersionOrder.Proofs.ScalarOrder

/-!
# The laws of intersection

Over a linear order, in which only equal values tie, intersection is a commutative, associative and
idempotent operation with the interval without bounds as its unit. Intervals that share nothing have
no intersection; a missing interval shares nothing with any other one, so that the laws hold
whichever of the intersections is missing. Two intersections are compared as intervals are: they
need not show the same values, only equal ones.

## Main definitions

- `Interval.sameBy`: whether two intervals are equal, by the equality of values
- `meetOption`: the intersection of intervals that may be missing
- `MeetLaws`: the laws
-/

namespace VersionOrder

variable {α ι κ : Type}

/-- Whether two endpoints are equal: of one kind, with equal values. -/
def Endpoint.sameBy (same : α → α → Bool) : Endpoint α → Endpoint α → Bool
  | .unbounded, .unbounded => true
  | .bounded mineClosed a, .bounded theirsClosed b => mineClosed = theirsClosed && same a b
  | _, _ => false

/-- Whether two intervals are equal: with equal endpoints on either side. -/
def Interval.sameBy (same : α → α → Bool) (mine theirs : Interval α) : Bool :=
  mine.left.sameBy same theirs.left && mine.right.sameBy same theirs.right

/-- The intersection of two intervals that may be missing; a missing one shares nothing. -/
def meetOption (tryIntersect : ι → ι → Except Fault (Option ι)) :
    Option ι → Option ι → Except Fault (Option ι)
  | some mine, some theirs => tryIntersect mine theirs
  | _, _ => .ok none

/-- Both answers are there, and they are two equal intervals or none. -/
def SameAnswer (same : ι → ι → Bool) (left right : Except Fault (Option ι)) : Prop :=
  ∃ mine? theirs?, left = .ok mine? ∧ right = .ok theirs? ∧
    Option.Rel (fun mine theirs => same mine theirs = true) mine? theirs?

/-- On the given intervals, intersection is commutative, associative and idempotent, with a unit. -/
structure MeetLaws (tryIntersect : ι → ι → Except Fault (Option ι)) (same : ι → ι → Bool) (unit : ι)
    (intervals : ι → Prop) : Prop where
  /-- The order of two intervals makes no difference. -/
  comm : ∀ {a b}, intervals a → intervals b →
    SameAnswer same (tryIntersect a b) (tryIntersect b a)
  /-- The grouping of three intervals makes no difference, not even where two share nothing. -/
  assoc : ∀ {a b c}, intervals a → intervals b → intervals c →
    SameAnswer same (tryIntersect a b >>= fun ab? => meetOption tryIntersect ab? (some c))
      (tryIntersect b c >>= fun bc? => meetOption tryIntersect (some a) bc?)
  /-- An interval shares all of itself with itself. -/
  idem : ∀ {a}, intervals a → SameAnswer same (tryIntersect a a) (.ok (some a))
  /-- An interval shares all of itself with the unit. -/
  unit : ∀ {a}, intervals a → SameAnswer same (tryIntersect a unit) (.ok (some a))

namespace Interval

variable {domain : Domain α} {answer : α → α → Int} {same : α → α → Bool} {values : α → Prop}

/-- What passes the second of two checks passes the first, so the first one may be left out. -/
theorem guard_bind_guard {p : α → Bool} {a : α} (f : α → α) (hf : p (f a) = true → p a = true) :
    ((Option.guard p a).bind fun b => Option.guard p (f b)) = Option.guard p (f a) := by
  by_cases hfirst : p a = true
  · rw [Option.guard, if_pos hfirst]
    rfl
  · have hsecond : ¬p (f a) = true := fun hyes => hfirst (hf hyes)
    rw [Option.guard, if_neg hfirst, Option.guard, if_neg hsecond]
    rfl

theorem endpoint_sameBy_of_tie
    (htie : ∀ a b, values a → values b → answer a b = 0 → same a b = true)
    {mine theirs : Endpoint α} (hmine : mine.Within values) (htheirs : theirs.Within values)
    (hzero : compareLeftBy answer mine theirs = 0) : mine.sameBy same theirs = true := by
  cases mine with
  | unbounded =>
    cases theirs with
    | unbounded => rfl
    | bounded theirsClosed b => simp at hzero
  | bounded mineClosed a =>
    cases theirs with
    | unbounded => simp at hzero
    | bounded theirsClosed b =>
      by_cases hvalues : answer a b = 0
      · have hsame : same a b = true := htie a b hmine htheirs hvalues
        rw [compareLeftBy_of_eq hvalues] at hzero
        revert hzero
        cases mineClosed <;> cases theirsClosed <;> simp [Endpoint.sameBy, hsame, cutAt, signum]
      · rw [compareLeftBy_of_ne hvalues] at hzero
        exact absurd hzero hvalues

/-- If only equal values tie, only equal intervals do. -/
theorem sameBy_of_ties (htie : ∀ a b, values a → values b → answer a b = 0 → same a b = true)
    {mine theirs : Interval α} (hmine : mine.Within values) (htheirs : theirs.Within values)
    (hties : Ties answer mine theirs) : mine.sameBy same theirs = true := by
  rw [sameBy, Bool.and_eq_true]
  constructor
  · exact endpoint_sameBy_of_tie htie hmine.left htheirs.left hties.left
  · refine endpoint_sameBy_of_tie ?_ hmine.right htheirs.right hties.right
    intro a b ha hb hzero
    exact htie a b ha hb (Int.neg_eq_zero.1 hzero)

section Order

variable (h : SignPreorderOn answer values)
  (htie : ∀ a b, values a → values b → answer a b = 0 → same a b = true)

include h

/-- What three intervals share, the first two taken first, is what they are narrowed to. -/
theorem meetBy_bind_left {a b c : Interval α} (ha : a.Within values) (hb : b.Within values)
    (hc : c.Within values) :
    ((meetBy answer a b).bind fun ab => meetBy answer ab c) =
      Option.guard (satisfiableBy answer) (narrowBy answer (narrowBy answer a b) c) := by
  simp only [meetBy_eq_guard]
  refine guard_bind_guard (fun ab => narrowBy answer ab c) ?_
  intro hroom
  exact (satisfiableBy_of_narrowBy h (within_narrowBy ha hb) hc hroom).1

/-- What three intervals share, the last two taken first, is what they are narrowed to. -/
theorem meetBy_bind_right {a b c : Interval α} (ha : a.Within values) (hb : b.Within values)
    (hc : c.Within values) :
    ((meetBy answer b c).bind fun bc => meetBy answer a bc) =
      Option.guard (satisfiableBy answer) (narrowBy answer a (narrowBy answer b c)) := by
  simp only [meetBy_eq_guard]
  refine guard_bind_guard (fun bc => narrowBy answer a bc) ?_
  intro hroom
  exact (satisfiableBy_of_narrowBy h ha (within_narrowBy hb hc) hroom).2

theorem meetBy_self {i : Interval α} (hi : i.Within values)
    (hroom : satisfiableBy answer i = true) : meetBy answer i i = some i := by
  rw [meetBy_eq_guard, narrowBy_self h hi]
  exact Option.guard_eq_some_iff.2 ⟨rfl, hroom⟩

include htie

/-- Intervals that tie are both satisfiable and equal, or neither is satisfiable. -/
theorem rel_guard_of_ties {mine theirs : Interval α} (hmine : mine.Within values)
    (htheirs : theirs.Within values) (hties : Ties answer mine theirs) :
    Option.Rel (fun i j => i.sameBy same j = true) (Option.guard (satisfiableBy answer) mine)
      (Option.guard (satisfiableBy answer) theirs) := by
  have hsame : mine.sameBy same theirs = true := sameBy_of_ties htie hmine htheirs hties
  have hroom := satisfiableBy_eq_of_ties h hmine htheirs hties
  by_cases hyes : satisfiableBy answer mine = true
  · rw [Option.guard, if_pos hyes, Option.guard, if_pos (hroom ▸ hyes)]
    exact .some hsame
  · rw [Option.guard, if_neg hyes, Option.guard, if_neg (hroom ▸ hyes)]
    exact .none

theorem sameBy_self {i : Interval α} (hi : i.Within values) : i.sameBy same i = true :=
  sameBy_of_ties htie hi hi (Ties.refl h hi)

theorem meetBy_comm {a b : Interval α} (ha : a.Within values) (hb : b.Within values) :
    Option.Rel (fun i j => i.sameBy same j = true) (meetBy answer a b) (meetBy answer b a) :=
  rel_guard_of_ties h htie (within_narrowBy ha hb) (within_narrowBy hb ha) (narrowBy_comm h ha hb)

theorem meetBy_assoc {a b c : Interval α} (ha : a.Within values) (hb : b.Within values)
    (hc : c.Within values) :
    Option.Rel (fun i j => i.sameBy same j = true)
      ((meetBy answer a b).bind fun ab => meetBy answer ab c)
      ((meetBy answer b c).bind fun bc => meetBy answer a bc) := by
  rw [meetBy_bind_left h ha hb hc, meetBy_bind_right h ha hb hc]
  have hab : (narrowBy answer a b).Within values := within_narrowBy ha hb
  have hbc : (narrowBy answer b c).Within values := within_narrowBy hb hc
  exact rel_guard_of_ties h htie (within_narrowBy hab hc) (within_narrowBy ha hbc)
    (narrowBy_assoc h ha hb hc)

end Order

theorem meetBy_whole {i : Interval α} (hroom : satisfiableBy answer i = true) :
    meetBy answer i whole = some i := by
  rw [meetBy_eq_guard, narrowBy_whole]
  exact Option.guard_eq_some_iff.2 ⟨rfl, hroom⟩

end Interval

/-- Equal intervals are equal when wrapped, and none is none. -/
theorem SameAnswer.wrap {same : ι → ι → Bool} {sameWrapped : κ → κ → Bool} (wrap : ι → κ)
    (hsame : ∀ a b, sameWrapped (wrap a) (wrap b) = same a b) {mine? theirs? : Option ι}
    (h : Option.Rel (fun a b => same a b = true) mine? theirs?) :
    SameAnswer sameWrapped (.ok (mine?.map wrap)) (.ok (theirs?.map wrap)) := by
  refine ⟨_, _, rfl, rfl, ?_⟩
  cases h with
  | some hab => exact .some ((hsame _ _).trans hab)
  | none => exact .none

/-- Wrapped intervals obey the laws if they are combined and compared as the intervals in them are:
formed intervals over values of which only equal ones tie. -/
theorem MeetLaws.wrap {answer : α → α → Int} {same : α → α → Bool} {values : α → Prop}
    (h : SignPreorderOn answer values)
    (htie : ∀ a b, values a → values b → answer a b = 0 → same a b = true)
    {tryIntersect : κ → κ → Except Fault (Option κ)} {sameWrapped : κ → κ → Bool}
    {intervals : κ → Prop} (wrap : Interval α → κ)
    (hanswer : ∀ {a b : Interval α}, a.Within values → b.Within values →
      tryIntersect (wrap a) (wrap b) = .ok ((a.meetBy answer b).map wrap))
    (hsame : ∀ a b, sameWrapped (wrap a) (wrap b) = a.sameBy same b)
    (hintervals : ∀ k, intervals k →
      ∃ i, wrap i = k ∧ i.Within values ∧ i.satisfiableBy answer = true) :
    MeetLaws tryIntersect sameWrapped (wrap .whole) intervals := by
  have hfirst : ∀ {a b c : Interval α}, a.Within values → b.Within values → c.Within values →
      (tryIntersect (wrap a) (wrap b) >>= fun ab? => meetOption tryIntersect ab? (some (wrap c))) =
        .ok (((a.meetBy answer b).bind fun ab => ab.meetBy answer c).map wrap) := by
    intro a b c ha hb hc
    rw [hanswer ha hb]
    -- What the first two share has endpoints of theirs, so the third can be combined with it.
    cases hab : a.meetBy answer b with
    | none => rfl
    | some ab => exact hanswer (Interval.within_of_meetBy ha hb hab) hc
  have hlast : ∀ {a b c : Interval α}, a.Within values → b.Within values → c.Within values →
      (tryIntersect (wrap b) (wrap c) >>= fun bc? => meetOption tryIntersect (some (wrap a)) bc?) =
        .ok (((b.meetBy answer c).bind fun bc => a.meetBy answer bc).map wrap) := by
    intro a b c ha hb hc
    rw [hanswer hb hc]
    cases hbc : b.meetBy answer c with
    | none => rfl
    | some bc => exact hanswer ha (Interval.within_of_meetBy hb hc hbc)
  constructor
  · intro a b ha hb
    obtain ⟨i, rfl, hi, _⟩ := hintervals a ha
    obtain ⟨j, rfl, hj, _⟩ := hintervals b hb
    rw [hanswer hi hj, hanswer hj hi]
    exact .wrap wrap hsame (Interval.meetBy_comm h htie hi hj)
  · intro a b c ha hb hc
    obtain ⟨i, rfl, hi, _⟩ := hintervals a ha
    obtain ⟨j, rfl, hj, _⟩ := hintervals b hb
    obtain ⟨k, rfl, hk, _⟩ := hintervals c hc
    rw [hfirst hi hj hk, hlast hi hj hk]
    exact .wrap wrap hsame (Interval.meetBy_assoc h htie hi hj hk)
  · intro a ha
    obtain ⟨i, rfl, hi, hroom⟩ := hintervals a ha
    rw [hanswer hi hi, Interval.meetBy_self h hi hroom]
    exact .wrap wrap hsame (.some (Interval.sameBy_self h htie hi))
  · intro a ha
    obtain ⟨i, rfl, hi, hroom⟩ := hintervals a ha
    rw [hanswer hi Interval.within_whole, Interval.meetBy_whole hroom]
    exact .wrap wrap hsame (.some (Interval.sameBy_self h htie hi))

/-- Over a linear order, intersection of formed intervals obeys the laws. -/
theorem Interval.meetLaws {domain : Domain α} {same : α → α → Bool} {values : α → Prop}
    (h : LinearOrderOn domain.compare same values) :
    MeetLaws (tryIntersect domain) (sameBy same) whole
      fun i => i.Within values ∧ i.Formed domain := by
  obtain ⟨answer, hanswer, horder, htie⟩ := h.answers
  refine .wrap horder htie id ?_ (fun _ _ => rfl) ?_
  · intro a b ha hb
    rw [Option.map_id]
    exact tryIntersect_eq hanswer ha hb
  · rintro i ⟨hi, hformed⟩
    exact ⟨i, rfl, hi, (formed_iff hanswer hi).1 hformed⟩

namespace Span

theorem sameEndpoint_eq (mine theirs : Endpoint Scalar) :
    sameEndpoint mine theirs = mine.sameBy Scalar.same theirs := by
  cases mine <;> cases theirs <;> rfl

/-- Spans of one order are equal if their intervals are. -/
theorem same_eq (order : SpanOrder) (mine theirs : Interval Scalar) :
    same ⟨order, mine⟩ ⟨order, theirs⟩ = mine.sameBy Scalar.same theirs := by
  simp only [same, sameEndpoint_eq, Interval.sameBy, scheme?, decide_true, Bool.true_and]

/-- Over a linear order of scalars, intersection of formed spans obeys the laws. -/
theorem meetLaws {order : SpanOrder} {values : Scalar → Prop}
    (h : LinearOrderOn order.domain.compare Scalar.same values) :
    MeetLaws tryIntersect same ⟨order, .whole⟩
      fun span => span.order = order ∧ span.interval.Within values ∧
        span.interval.Formed order.domain := by
  obtain ⟨answer, hanswer, horder, htie⟩ := h.answers
  refine .wrap horder htie (Span.mk order) ?_ (same_eq order) ?_
  · intro a b ha hb
    rw [tryIntersect_eq, Interval.tryIntersect_eq hanswer ha hb]
    -- The shared endpoints are endpoints of the spans, so reading them again changes nothing.
    refine congrArg Except.ok (Option.map_congr fun shared hshared => ?_)
    have hwithin := Interval.within_of_meetBy ha hb hshared
    rw [Interval.map_eq_self (fun _ => SpanOrder.read_eq_self h.preorder) hwithin]
  · rintro ⟨_, i⟩ ⟨rfl, hi, hformed⟩
    exact ⟨i, rfl, hi, (Interval.formed_iff hanswer hi).1 hformed⟩

end Span

/-- Over every linear order, intersection is commutative, associative and idempotent, with the
interval of the shape without bounds as its unit: of formed intervals over any domain, and of spans
of one order. -/
theorem intersection_laws :
    (∀ (α : Type) (domain : Domain α) (same : α → α → Bool) (values : α → Prop),
      LinearOrderOn domain.compare same values →
        Interval.ofShape domain .unbounded none none = .ok .whole ∧
        MeetLaws (Interval.tryIntersect domain) (Interval.sameBy same) .whole
          fun i => i.Within values ∧ i.Formed domain) ∧
    (∀ (order : SpanOrder) (values : Scalar → Prop),
      LinearOrderOn order.domain.compare Scalar.same values →
        order.ofShape .unbounded none none = .ok ⟨order, .whole⟩ ∧
        MeetLaws Span.tryIntersect Span.same ⟨order, .whole⟩
          fun span => span.order = order ∧ span.interval.Within values ∧
            span.interval.Formed order.domain) := by
  constructor
  · intro α domain same values h
    exact ⟨rfl, Interval.meetLaws h⟩
  · intro order values h
    exact ⟨rfl, Span.meetLaws h⟩

/-- Numbers in their own order are such an order. `[1, *)` and `(True, 2]` have one intersection,
although their left endpoints tie, and so have the spans `[1, 2)`, `[2, 3]` and `[1, *)`, of which
the first two share nothing. -/
theorem intersection_laws_natural :
    LinearOrderOn Scalar.natural.compare Scalar.same Scalar.Sized ∧
    SameAnswer (Interval.sameBy Scalar.same)
      (Interval.tryIntersect Scalar.natural ⟨.bounded true (.integer 1), .unbounded⟩
        ⟨.bounded false (.boolean true), .bounded true (.integer 2)⟩)
      (Interval.tryIntersect Scalar.natural
        ⟨.bounded false (.boolean true), .bounded true (.integer 2)⟩
        ⟨.bounded true (.integer 1), .unbounded⟩) ∧
    SameAnswer Span.same
      (Span.tryIntersect
          ⟨.natural, ⟨.bounded true (.integer 1), .bounded false (.integer 2)⟩⟩
          ⟨.natural, ⟨.bounded true (.integer 2), .bounded true (.integer 3)⟩⟩ >>= fun ab? =>
        meetOption Span.tryIntersect ab?
          (some ⟨.natural, ⟨.bounded true (.integer 1), .unbounded⟩⟩))
      (Span.tryIntersect
          ⟨.natural, ⟨.bounded true (.integer 2), .bounded true (.integer 3)⟩⟩
          ⟨.natural, ⟨.bounded true (.integer 1), .unbounded⟩⟩ >>= fun bc? =>
        meetOption Span.tryIntersect
          (some ⟨.natural, ⟨.bounded true (.integer 1), .bounded false (.integer 2)⟩⟩) bc?) := by
  have horder := Scalar.linearOrderOn_natural
  have hsized : ∀ n, (Scalar.integer n).Sized := fun n => ⟨.integer n, rfl, trivial⟩
  refine ⟨horder, ?_, ?_⟩
  · refine (intersection_laws.1 _ _ _ _ horder).2.comm ⟨⟨hsized 1, trivial⟩, ?_⟩
      ⟨⟨⟨.integer 1, rfl, trivial⟩, hsized 2⟩, ?_⟩
    · exact ⟨.inclusive, some (.integer 1), .unbounded, none, rfl⟩
    · exact ⟨.exclusive, some (.boolean true), .inclusive, some (.integer 2), rfl⟩
  · refine (intersection_laws.2 .natural _ horder).2.assoc ⟨rfl, ⟨hsized 1, hsized 2⟩, ?_⟩
      ⟨rfl, ⟨hsized 2, hsized 3⟩, ?_⟩ ⟨rfl, ⟨hsized 1, trivial⟩, ?_⟩
    · exact ⟨.inclusive, some (.integer 1), .exclusive, some (.integer 2), rfl⟩
    · exact ⟨.inclusive, some (.integer 2), .inclusive, some (.integer 3), rfl⟩
    · exact ⟨.inclusive, some (.integer 1), .unbounded, none, rfl⟩

end VersionOrder
