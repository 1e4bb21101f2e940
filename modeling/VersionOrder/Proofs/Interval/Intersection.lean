import VersionOrder.Interval.Span
import VersionOrder.Proofs.BuildOrder
import VersionOrder.Proofs.Interval.Narrowing

/-!
# Intersection is exact

Over a total preorder, the intersection of two intervals has exactly the common members of both, and
two intervals without intersection have none. Which of several tied values an endpoint shows does
not matter, nor whether the intervals themselves can have members.

## Main definitions

- `ExactMeet`: two intervals with an exact intersection
-/

namespace VersionOrder

variable {α ι : Type}

/-- Intersection answers for `mine` and `theirs`. Among the given values, what they share has
exactly their common members; if they share nothing, there are none. -/
def ExactMeet (contains : ι → α → Except Fault Bool)
    (tryIntersect : ι → ι → Except Fault (Option ι)) (values : α → Prop) (mine theirs : ι) : Prop :=
  ∃ shared?, tryIntersect mine theirs = .ok shared? ∧
    ∀ x, values x → ∃ inMine inTheirs,
      contains mine x = .ok inMine ∧ contains theirs x = .ok inTheirs ∧
      match shared? with
      | some shared => contains shared x = .ok (inMine && inTheirs)
      | none => (inMine && inTheirs) = false

/-- Exactness carries over to wrapped intervals, if they are combined as the intervals in them are
and asked about values that are read first. -/
theorem ExactMeet.wrap {β κ : Type} {contains : ι → α → Except Fault Bool}
    {tryIntersect : ι → ι → Except Fault (Option ι)} {wrappedContains : κ → β → Except Fault Bool}
    {wrappedTryIntersect : κ → κ → Except Fault (Option κ)} {values : α → Prop} {mine theirs : ι}
    (h : ExactMeet contains tryIntersect values mine theirs) (wrap : ι → κ) (read : β → α)
    (hcontains : ∀ i x, wrappedContains (wrap i) x = contains i (read x))
    (hanswer : ∀ shared?, tryIntersect mine theirs = .ok shared? →
      wrappedTryIntersect (wrap mine) (wrap theirs) = .ok (shared?.map wrap)) :
    ExactMeet wrappedContains wrappedTryIntersect (fun x => values (read x)) (wrap mine)
      (wrap theirs) := by
  obtain ⟨shared?, hshared?, hmembers⟩ := h
  refine ⟨shared?.map wrap, hanswer shared? hshared?, ?_⟩
  intro x hx
  obtain ⟨inMine, inTheirs, hinMine, hinTheirs, hshared⟩ := hmembers (read x) hx
  refine ⟨inMine, inTheirs, (hcontains mine x).trans hinMine,
    (hcontains theirs x).trans hinTheirs, ?_⟩
  cases shared? with
  | none => exact hshared
  | some shared => exact (hcontains shared x).trans hshared

namespace Interval

variable {answer : α → α → Int} {values : α → Prop}

section Order

variable (h : SignPreorderOn answer values)

include h

/-- A value is not cut off by a left endpoint if there is room from there to the value. -/
theorem clearsLeft_eq_hasRoomBy {left : Endpoint α} (hleft : left.Within values) {x : α}
    (hx : values x) : clearsLeft answer left x = hasRoomBy answer left (.bounded true x) := by
  cases left with
  | unbounded => rfl
  | bounded closed bound =>
    have hforth := h.pos_iff hx hleft
    have hback := h.pos_iff hleft hx
    rw [Bool.eq_iff_iff, clearsLeft_bounded, hasRoomBy_bounded]
    constructor
    · rintro (hpos | ⟨htie, hclosed⟩)
      · exact .inl (hforth.1 hpos)
      · exact .inr ⟨by omega, hclosed, rfl⟩
    · rintro (hneg | ⟨htie, hclosed, _⟩)
      · exact .inl (hforth.2 hneg)
      · exact .inr ⟨by omega, hclosed⟩

/-- Clearing the later of two bounds is clearing both. -/
theorem clearsLeft_laterBy {mine theirs : Endpoint α} (hmine : mine.Within values)
    (htheirs : theirs.Within values) {x : α} (hx : values x) :
    clearsLeft answer (laterBy answer mine theirs) x =
      (clearsLeft answer mine x && clearsLeft answer theirs x) := by
  have hlater : (laterBy answer mine theirs).Within values := within_laterBy hmine htheirs
  rw [clearsLeft_eq_hasRoomBy h hlater hx, clearsLeft_eq_hasRoomBy h hmine hx,
    clearsLeft_eq_hasRoomBy h htheirs hx]
  exact hasRoomBy_laterBy h hmine htheirs hx

/-- A value between two endpoints leaves room between them. -/
theorem hasRoomBy_of_clears {left right : Endpoint α} (hleft : left.Within values)
    (hright : right.Within values) {x : α} (hx : values x)
    (hl : clearsLeft answer left x = true) (hr : clearsRight answer right x = true) :
    hasRoomBy answer left right = true := by
  cases left with
  | unbounded => rfl
  | bounded leftClosed a =>
    cases right with
    | unbounded => rfl
    | bounded rightClosed b =>
      rw [clearsLeft_bounded] at hl
      rw [clearsRight_bounded] at hr
      rw [hasRoomBy_bounded]
      have hax := h.pos_iff hx hleft
      rcases hl with hpos | ⟨hxa, hleftClosed⟩
      · exact .inl (h.neg_of_neg_of_nonpos hleft hx hright (hax.1 hpos) (by omega))
      · have htie := (h.eq_zero_iff hx hleft).1 hxa
        rcases hr with hneg | ⟨hxb, hrightClosed⟩
        · exact .inl (h.neg_of_nonpos_of_neg hleft hx hright (by omega) hneg)
        · exact .inr ⟨h.eq_zero_trans hleft hx hright htie hxb, hleftClosed, hrightClosed⟩

/-- What two intervals are narrowed to has their common members. -/
theorem memberBy_narrowBy {mine theirs : Interval α} (hmine : mine.Within values)
    (htheirs : theirs.Within values) {x : α} (hx : values x) :
    memberBy answer (narrowBy answer mine theirs) x =
      (memberBy answer mine x && memberBy answer theirs x) := by
  have hleft := clearsLeft_laterBy h hmine.left htheirs.left hx
  have hright : clearsRight answer (earlierBy answer mine.right theirs.right) x =
      (clearsRight answer mine.right x && clearsRight answer theirs.right x) :=
    clearsLeft_laterBy h.reversed hmine.right htheirs.right hx
  simp only [memberBy, narrowBy, hleft, hright]
  ac_rfl

/-- Intersection by known answers is exact. -/
theorem memberBy_meetBy {mine theirs : Interval α} (hmine : mine.Within values)
    (htheirs : theirs.Within values) {x : α} (hx : values x) :
    match meetBy answer mine theirs with
    | some shared => memberBy answer shared x = (memberBy answer mine x && memberBy answer theirs x)
    | none => (memberBy answer mine x && memberBy answer theirs x) = false := by
  have hmember := memberBy_narrowBy h hmine htheirs hx
  have hwithin : (narrowBy answer mine theirs).Within values := within_narrowBy hmine htheirs
  by_cases hroom : satisfiableBy answer (narrowBy answer mine theirs) = true
  · rw [meetBy_eq_guard, Option.guard, if_pos hroom]
    exact hmember
  · rw [meetBy_eq_guard, Option.guard, if_neg hroom, ← hmember]
    -- A common member would lie between the endpoints, which have no room.
    refine Bool.eq_false_iff.2 fun hin => hroom ?_
    obtain ⟨hl, hr⟩ := Bool.and_eq_true_iff.1 hin
    exact hasRoomBy_of_clears h hwithin.left hwithin.right hx hl hr

end Order

/-- Over a total preorder, intersection is exact. -/
theorem exactMeet {domain : Domain α} (h : TotalPreorderOn domain.compare values)
    {mine theirs : Interval α} (hmine : mine.Within values) (htheirs : theirs.Within values) :
    ExactMeet (contains domain) (tryIntersect domain) values mine theirs := by
  obtain ⟨answer, hanswer, horder⟩ := h
  refine ⟨_, tryIntersect_eq hanswer hmine htheirs, ?_⟩
  intro x hx
  refine ⟨_, _, contains_eq hanswer hmine hx, contains_eq hanswer htheirs hx, ?_⟩
  have hexact := memberBy_meetBy horder hmine htheirs hx
  cases hshared : meetBy answer mine theirs with
  | none => simpa [hshared] using hexact
  | some shared =>
    have hwithin := within_of_meetBy hmine htheirs hshared
    simpa [hshared, contains_eq hanswer hwithin hx] using hexact

/-- The endpoints of an intersection are endpoints of the two intervals. -/
theorem within_of_tryIntersect {domain : Domain α} (h : TotalPreorderOn domain.compare values)
    {mine theirs shared : Interval α} (hmine : mine.Within values) (htheirs : theirs.Within values)
    (hshared : tryIntersect domain mine theirs = .ok (some shared)) : shared.Within values := by
  obtain ⟨answer, hanswer, _⟩ := h
  rw [tryIntersect_eq hanswer hmine htheirs] at hshared
  exact within_of_meetBy hmine htheirs (Except.ok.inj hshared)

theorem map_eq_self {g : α → α} (hg : ∀ v, values v → g v = v) {i : Interval α}
    (hi : i.Within values) : i.map g = i := by
  have hside : ∀ e : Endpoint α, e.Within values → e.map g = e := by
    intro e he
    cases e with
    | unbounded => rfl
    | bounded closed v => exact congrArg (Endpoint.bounded closed) (hg v he)
  rw [map, hside i.left hi.left, hside i.right hi.right]

end Interval

theorem Scheme.agree_self (scheme : Scheme) : scheme.agree scheme = .ok () :=
  if_pos rfl

/-- Over an order of versions, intersection of version intervals is exact. -/
theorem VersionInterval.exactMeet {scheme : Scheme} {versions : Version → Prop}
    (h : TotalPreorderOn scheme.compare versions) {mine theirs : Interval Version}
    (hmine : mine.Within versions) (htheirs : theirs.Within versions) :
    ExactMeet contains tryIntersect versions ⟨scheme, mine⟩ ⟨scheme, theirs⟩ := by
  have hdomain : TotalPreorderOn scheme.domain.compare versions := h
  have hexact := Interval.exactMeet hdomain hmine htheirs
  have hcontains : ∀ i v, contains ⟨scheme, i⟩ v = i.contains scheme.domain v := fun _ _ => rfl
  refine hexact.wrap (VersionInterval.mk scheme) id hcontains ?_
  intro shared? hshared?
  simp only [tryIntersect, Scheme.agree_self, hshared?]
  rfl

namespace SpanOrder

/-- What is ordered has been read: no scheme compares texts. -/
theorem read_eq_self {order : SpanOrder} {values : Scalar → Prop}
    (h : TotalPreorderOn order.domain.compare values) {v : Scalar} (hv : values v) :
    order.read v = v := by
  cases order with
  | natural => rfl
  | ranked scheme =>
    cases v with
    | text s =>
      obtain ⟨result, hresult, _⟩ := h
      exact nomatch hresult (.text s) (.text s) hv hv
    | boolean b => rfl
    | integer n => rfl
    | real x => rfl
    | version v => rfl

/-- The comparison of scalars by their versions; what is no version ties with everything. -/
def byVersion (answer : Version → Version → Int) : Scalar → Scalar → Int
  | .version v, .version w => answer v w
  | _, _ => 0

/-- The scalars that a scheme orders are the versions that it orders. -/
theorem totalPreorderOn_ranked {scheme : Scheme} {versions : Version → Prop}
    (h : TotalPreorderOn scheme.compare versions) :
    TotalPreorderOn (SpanOrder.ranked scheme).domain.compare
      fun x => ∃ v, x = .version v ∧ versions v := by
  obtain ⟨answer, hanswer, horder⟩ := h
  refine ⟨byVersion answer, ?_, ?_, ?_⟩
  · rintro _ _ ⟨v, rfl, hv⟩ ⟨w, rfl, hw⟩
    exact hanswer v w hv hw
  · rintro _ _ ⟨v, rfl, hv⟩ ⟨w, rfl, hw⟩
    exact horder.pos_iff hv hw
  · rintro _ _ _ ⟨u, rfl, hu⟩ ⟨v, rfl, hv⟩ ⟨w, rfl, hw⟩
    exact horder.trans hu hv hw

end SpanOrder

namespace Span

/-- Spans of one order are combined as their intervals are, and the endpoints are read again. -/
theorem tryIntersect_eq (order : SpanOrder) (mine theirs : Interval Scalar) :
    tryIntersect ⟨order, mine⟩ ⟨order, theirs⟩ =
      (mine.tryIntersect order.domain theirs).map
        (Option.map fun shared => ⟨order, shared.map order.read⟩) := by
  cases order with
  | natural =>
    simp only [tryIntersect, scheme?, SpanOrder.scheme?, domain]
    cases mine.tryIntersect SpanOrder.natural.domain theirs <;> rfl
  | ranked scheme =>
    simp only [tryIntersect, scheme?, SpanOrder.scheme?, domain, Scheme.agree_self]
    cases mine.tryIntersect (SpanOrder.ranked scheme).domain theirs <;> rfl

/-- Over an order of scalars, intersection of spans is exact, also for texts that are read as
versions. -/
theorem exactMeet {order : SpanOrder} {values : Scalar → Prop}
    (h : TotalPreorderOn order.domain.compare values) {mine theirs : Interval Scalar}
    (hmine : mine.Within values) (htheirs : theirs.Within values) :
    ExactMeet (fun span x => span.contains (some x)) tryIntersect (fun x => values (order.read x))
      ⟨order, mine⟩ ⟨order, theirs⟩ := by
  have hexact := Interval.exactMeet h hmine htheirs
  have hcontains : ∀ i x, contains ⟨order, i⟩ (some x) = i.contains order.domain (order.read x) :=
    fun _ _ => rfl
  refine hexact.wrap (Span.mk order) order.read hcontains ?_
  intro shared? hshared?
  rw [tryIntersect_eq, hshared?]
  -- The shared endpoints are endpoints of the spans, so reading them again changes nothing.
  refine congrArg Except.ok (Option.map_congr fun shared hshared => ?_)
  have hwithin := Interval.within_of_tryIntersect h hmine htheirs
    (hshared?.trans (congrArg Except.ok hshared))
  rw [Interval.map_eq_self (fun _ => SpanOrder.read_eq_self h) hwithin]

end Span

/-- Intersection is exact over every total preorder: of intervals over any domain, of version
intervals of one scheme and of spans of one order. -/
theorem intersection_exact :
    (∀ (α : Type) (domain : Domain α) (values : α → Prop) (mine theirs : Interval α),
      TotalPreorderOn domain.compare values → mine.Within values → theirs.Within values →
        ExactMeet (Interval.contains domain) (Interval.tryIntersect domain) values mine theirs) ∧
    (∀ (scheme : Scheme) (versions : Version → Prop) (mine theirs : Interval Version),
      TotalPreorderOn scheme.compare versions → mine.Within versions → theirs.Within versions →
        ExactMeet VersionInterval.contains VersionInterval.tryIntersect versions
          ⟨scheme, mine⟩ ⟨scheme, theirs⟩) ∧
    (∀ (order : SpanOrder) (values : Scalar → Prop) (mine theirs : Interval Scalar),
      TotalPreorderOn order.domain.compare values → mine.Within values → theirs.Within values →
        ExactMeet (fun span x => span.contains (some x)) Span.tryIntersect
          (fun x => values (order.read x)) ⟨order, mine⟩ ⟨order, theirs⟩) := by
  refine ⟨?_, ?_, ?_⟩
  · intro α domain values mine theirs h hmine htheirs
    exact Interval.exactMeet h hmine htheirs
  · intro scheme versions mine theirs h hmine htheirs
    exact VersionInterval.exactMeet h hmine htheirs
  · intro order values mine theirs h hmine htheirs
    exact Span.exactMeet h hmine htheirs

/-- The default scheme of semantic versioning is such an order: `[1.0, *)` and `(1, 2]` have an
exact intersection, although their left endpoints tie. -/
theorem intersection_exact_semver :
    TotalPreorderOn Scheme.semverDefault.compare (fun _ => True) ∧
    ExactMeet (Interval.contains Scheme.semverDefault.domain)
      (Interval.tryIntersect Scheme.semverDefault.domain) (fun _ => True)
      ⟨.bounded true (.ofString "1.0"), .unbounded⟩
      ⟨.bounded false (.ofString "1"), .bounded true (.ofString "2")⟩ ∧
    ExactMeet VersionInterval.contains VersionInterval.tryIntersect (fun _ => True)
      ⟨.semverDefault, ⟨.bounded true (.ofString "1.0"), .unbounded⟩⟩
      ⟨.semverDefault, ⟨.bounded false (.ofString "1"), .bounded true (.ofString "2")⟩⟩ ∧
    ExactMeet (fun span x => span.contains (some x)) Span.tryIntersect
      (fun x => ∃ v, (SpanOrder.ranked .semverDefault).read x = .version v ∧ True)
      ⟨.ranked .semverDefault, ⟨.bounded true (.version (.ofString "1.0")), .unbounded⟩⟩
      ⟨.ranked .semverDefault, ⟨.bounded false (.version (.ofString "1")),
        .bounded true (.version (.ofString "2"))⟩⟩ := by
  have horder := Scheme.totalPreorderOn_semverDefault
  have hdomain : TotalPreorderOn Scheme.semverDefault.domain.compare fun _ => True := horder
  refine ⟨horder, ?_, ?_, ?_⟩
  · exact intersection_exact.1 _ _ _ _ _ hdomain ⟨trivial, trivial⟩ ⟨trivial, trivial⟩
  · exact intersection_exact.2.1 _ _ _ _ horder ⟨trivial, trivial⟩ ⟨trivial, trivial⟩
  · exact intersection_exact.2.2 _ _ _ _ (SpanOrder.totalPreorderOn_ranked horder)
      ⟨⟨_, rfl, trivial⟩, trivial⟩ ⟨⟨_, rfl, trivial⟩, ⟨_, rfl, trivial⟩⟩

end VersionOrder
