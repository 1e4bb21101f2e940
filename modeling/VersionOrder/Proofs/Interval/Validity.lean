import VersionOrder.Proofs.Interval.Intersection

/-!
# Validity needs no order

Whether two endpoints leave room is asked twice: before an intersection is formed, and again by the
check that every interval is formed with. The two questions have the same answer for any comparison
that gives the same answer each time, even one that is no order. So an intersection is never refused
as invalid, and every interval that can be built at all is satisfiable.

## Main definitions

- `Interval.Built`, `Span.Built`: what any sequence of calls can arrive at
- `Domain.AccountsFor`: a computation that fails only where a comparison of values does
- `ConcordantMeet`: the questions about what two intervals share have answers that agree
-/

namespace VersionOrder

variable {α β γ ι : Type}

section Sequence

variable {ε : Type} {first : Except ε β} {next : β → Except ε γ}

/-- Two computations in a row give a value only if both do. -/
theorem ok_of_bind {c : γ} (h : first >>= next = .ok c) : ∃ b, first = .ok b ∧ next b = .ok c := by
  cases first with
  | error fault => cases h
  | ok b => exact ⟨b, rfl, h⟩

/-- Two computations in a row fail only if one of them does. -/
theorem error_of_bind {fault : ε} (h : first >>= next = .error fault) :
    first = .error fault ∨ ∃ b, first = .ok b ∧ next b = .error fault := by
  cases first with
  | error other =>
    cases h
    exact .inl rfl
  | ok b => exact .inr ⟨b, rfl, h⟩

end Sequence

/-- Where an intersection has to be there and is, it is the one that was asked for. -/
theorem ok_of_elim {shared? : Except Fault (Option ι)} {fault : Fault} {shared : ι}
    (h : (shared? >>= fun answer => answer.elim (.error fault) .ok) = .ok shared) :
    shared? = .ok (some shared) := by
  obtain ⟨answer, rfl, hanswer⟩ := ok_of_bind h
  cases answer with
  | none => cases hanswer
  | some other =>
    cases hanswer
    rfl

namespace Domain

variable {domain : Domain α} {values : α → Prop}

/-- On the given values, a comparison may fail, but not as the forming of an interval does. -/
def FaultsApartOn (domain : Domain α) (values : α → Prop) : Prop :=
  ∀ a b cause, values a → values b → domain.compare a b ≠ .error (.interval cause)

/-- A domain that answers on the given values does not fail on them in any way. -/
theorem FaultsApartOn.of_answersOn {answer : α → α → Int} (h : domain.AnswersOn answer values) :
    domain.FaultsApartOn values := by
  intro a b cause ha hb hfault
  rw [h a b ha hb] at hfault
  cases hfault

/-- Whatever a computation fails with, a comparison of two of the given values fails with it. -/
def AccountsFor (domain : Domain α) (values : α → Prop) (result : Except Fault β) : Prop :=
  ∀ fault, result = .error fault → ∃ a b, values a ∧ values b ∧ domain.compare a b = .error fault

/-- The domain with every comparison turned. -/
def reversed (domain : Domain α) : Domain α where
  compare a b := do return -(← domain.compare a b)
  render := domain.render

theorem accountsFor_ok (b : β) : domain.AccountsFor values (.ok b) :=
  fun _ h => nomatch h

theorem accountsFor_compare {a b : α} (ha : values a) (hb : values b) :
    domain.AccountsFor values (domain.compare a b) :=
  fun _ h => ⟨a, b, ha, hb, h⟩

theorem AccountsFor.bind {first : Except Fault β} {next : β → Except Fault γ}
    (hfirst : domain.AccountsFor values first)
    (hnext : ∀ b, first = .ok b → domain.AccountsFor values (next b)) :
    domain.AccountsFor values (first >>= next) := by
  intro fault h
  obtain hfault | ⟨b, hb, hfault⟩ := error_of_bind h
  · exact hfirst fault hfault
  · exact hnext b hb fault hfault

/-- A turned comparison fails where the comparison does. -/
theorem AccountsFor.of_reversed {result : Except Fault β}
    (h : domain.reversed.AccountsFor values result) : domain.AccountsFor values result := by
  intro fault hfault
  obtain ⟨a, b, ha, hb, hcompare⟩ := h fault hfault
  obtain hcompare | ⟨r, _, hreturn⟩ := error_of_bind hcompare
  · exact ⟨a, b, ha, hb, hcompare⟩
  · cases hreturn

end Domain

namespace Interval

variable {domain : Domain α} {values : α → Prop}

/-- The intervals that any sequence of calls arrives at: they are formed from boundaries and values
or as one of the shapes, or they are what two such intervals share. -/
inductive Built (domain : Domain α) : Interval α → Prop where
  | make {leftBoundary rightBoundary : Boundary} {left? right? : Option α} {i : Interval α} :
    make domain leftBoundary left? rightBoundary right? = .ok i → Built domain i
  | ofShape {shape : Shape} {first? second? : Option α} {i : Interval α} :
    ofShape domain shape first? second? = .ok i → Built domain i
  | tryIntersect {mine theirs shared : Interval α} : Built domain mine → Built domain theirs →
    tryIntersect domain mine theirs = .ok (some shared) → Built domain shared
  | intersect {mine theirs shared : Interval α} : Built domain mine → Built domain theirs →
    intersect domain mine theirs = .ok shared → Built domain shared

/-- The check that intervals are formed with admits exactly the endpoints that leave room. -/
theorem ofEndpoints_eq_ok_iff {left right : Endpoint α} {i : Interval α} :
    ofEndpoints domain left right = .ok i ↔
      leavesRoom domain left right = .ok true ∧ i = ⟨left, right⟩ := by
  cases left with
  | unbounded => simp [ofEndpoints, leavesRoom, eq_comm]
  | bounded leftClosed a =>
    cases right with
    | unbounded => simp [ofEndpoints, leavesRoom, eq_comm]
    | bounded rightClosed b =>
      simp only [ofEndpoints, leavesRoom]
      cases domain.compare a b with
      | error fault => simp [bind, Except.bind]
      | ok result =>
        -- The check asks for what is wrong, the other question for what is right.
        obtain hlt | htie | hgt := Int.lt_trichotomy result 0
        · have hle : ¬0 < result := by omega
          have hne : result ≠ 0 := by omega
          simp [bind, Except.bind, pure, Except.pure, hlt, hle, hne, eq_comm]
        · cases leftClosed <;> cases rightClosed <;>
            simp [bind, Except.bind, pure, Except.pure, htie, eq_comm]
        · have hle : ¬result < 0 := by omega
          have hne : result ≠ 0 := by omega
          simp [bind, Except.bind, pure, Except.pure, hgt, hle, hne]

/-- What has been formed is satisfiable. -/
theorem isSatisfiable_of_make {leftBoundary rightBoundary : Boundary} {left? right? : Option α}
    {i : Interval α} (h : make domain leftBoundary left? rightBoundary right? = .ok i) :
    isSatisfiable domain i = .ok true := by
  obtain ⟨left, _, h⟩ := ok_of_bind h
  obtain ⟨right, _, h⟩ := ok_of_bind h
  obtain ⟨hroom, rfl⟩ := ofEndpoints_eq_ok_iff.1 h
  exact hroom

/-- What two intervals share is satisfiable. -/
theorem isSatisfiable_of_tryIntersect {mine theirs shared : Interval α}
    (h : tryIntersect domain mine theirs = .ok (some shared)) :
    isSatisfiable domain shared = .ok true := by
  obtain ⟨left, _, h⟩ := ok_of_bind h
  obtain ⟨right, _, h⟩ := ok_of_bind h
  obtain ⟨room, _, h⟩ := ok_of_bind h
  cases room with
  | false => cases h
  | true =>
    obtain ⟨i, hformed, hshared⟩ := ok_of_bind h
    cases hshared
    obtain ⟨hroom, rfl⟩ := ofEndpoints_eq_ok_iff.1 hformed
    exact hroom

theorem isSatisfiable_of_ofWords {leftWord rightWord : String} {left? right? : Option α}
    {i : Interval α} (h : ofWords domain leftWord left? rightWord right? = .ok i) :
    isSatisfiable domain i = .ok true := by
  unfold ofWords at h
  split at h
  next => cases h
  next => cases h
  next => exact isSatisfiable_of_make h

theorem intersect_eq (mine theirs : Interval α) :
    intersect domain mine theirs = tryIntersect domain mine theirs >>= fun shared? =>
      shared?.elim (.error (.interval (.disjoint (mine.render domain) (theirs.render domain))))
        .ok := by
  rw [intersect]
  cases tryIntersect domain mine theirs with
  | error fault => rfl
  | ok shared? => cases shared? <;> rfl

/-- Every interval that can be built is satisfiable. -/
theorem Built.isSatisfiable {i : Interval α} (h : Built domain i) :
    isSatisfiable domain i = .ok true := by
  cases h with
  | make h => exact isSatisfiable_of_make h
  | ofShape h => exact isSatisfiable_of_make h
  | tryIntersect _ _ h => exact isSatisfiable_of_tryIntersect h
  | intersect _ _ h =>
    rw [intersect_eq] at h
    exact isSatisfiable_of_tryIntersect (ok_of_elim h)

/-- The earlier of two right endpoints is the later one of the reversed order, failures included. -/
theorem minRight_eq_maxLeft (mine theirs : Endpoint α) :
    minRight domain mine theirs = maxLeft domain.reversed mine theirs := by
  cases mine with
  | unbounded => rfl
  | bounded mineClosed a =>
    cases theirs with
    | unbounded => rfl
    | bounded theirsClosed b =>
      simp only [minRight, maxLeft, Domain.reversed]
      cases domain.compare a b with
      | error fault => rfl
      | ok result => simp [bind, Except.bind, pure, Except.pure]

section Within

variable {mine theirs : Endpoint α} (hmine : mine.Within values) (htheirs : theirs.Within values)

include hmine htheirs

theorem within_of_maxLeft {e : Endpoint α} (h : maxLeft domain mine theirs = .ok e) :
    e.Within values := by
  cases mine with
  | unbounded =>
    cases h
    exact htheirs
  | bounded mineClosed a =>
    cases theirs with
    | unbounded =>
      cases h
      exact hmine
    | bounded theirsClosed b =>
      obtain ⟨result, _, h⟩ := ok_of_bind h
      split at h
      next =>
        cases h
        exact hmine
      next =>
        split at h
        next =>
          cases h
          exact htheirs
        next =>
          cases h
          exact hmine

theorem within_of_minRight {e : Endpoint α} (h : minRight domain mine theirs = .ok e) :
    e.Within values :=
  within_of_maxLeft hmine htheirs ((minRight_eq_maxLeft mine theirs).symm.trans h)

theorem accountsFor_maxLeft : domain.AccountsFor values (maxLeft domain mine theirs) := by
  cases mine with
  | unbounded => exact Domain.accountsFor_ok _
  | bounded mineClosed a =>
    cases theirs with
    | unbounded => exact Domain.accountsFor_ok _
    | bounded theirsClosed b =>
      have hcompare : domain.AccountsFor values (domain.compare a b) :=
        Domain.accountsFor_compare hmine htheirs
      refine hcompare.bind fun result _ => ?_
      split
      next => exact Domain.accountsFor_ok _
      next => split <;> exact Domain.accountsFor_ok _

theorem accountsFor_minRight : domain.AccountsFor values (minRight domain mine theirs) := by
  rw [minRight_eq_maxLeft]
  exact (accountsFor_maxLeft hmine htheirs).of_reversed

theorem accountsFor_leavesRoom : domain.AccountsFor values (leavesRoom domain mine theirs) := by
  cases mine with
  | unbounded => exact Domain.accountsFor_ok _
  | bounded mineClosed a =>
    cases theirs with
    | unbounded => exact Domain.accountsFor_ok _
    | bounded theirsClosed b =>
      have hcompare : domain.AccountsFor values (domain.compare a b) :=
        Domain.accountsFor_compare hmine htheirs
      refine hcompare.bind fun result _ => ?_
      exact Domain.accountsFor_ok _

end Within

/-- Intersection fails only where a comparison of two of the intervals' values does: what has room
is formed without being refused. -/
theorem accountsFor_tryIntersect {mine theirs : Interval α} (hmine : mine.Within values)
    (htheirs : theirs.Within values) :
    domain.AccountsFor values (tryIntersect domain mine theirs) := by
  refine (accountsFor_maxLeft hmine.left htheirs.left).bind fun left hleft => ?_
  refine (accountsFor_minRight hmine.right htheirs.right).bind fun right hright => ?_
  have hleftWithin : left.Within values := within_of_maxLeft hmine.left htheirs.left hleft
  have hrightWithin : right.Within values := within_of_minRight hmine.right htheirs.right hright
  refine (accountsFor_leavesRoom hleftWithin hrightWithin).bind fun room hroom => ?_
  cases room with
  | false => exact Domain.accountsFor_ok _
  | true =>
    have hformed : ofEndpoints domain left right = .ok ⟨left, right⟩ :=
      ofEndpoints_eq_ok_iff.2 ⟨hroom, rfl⟩
    simp only [hformed]
    exact Domain.accountsFor_ok _

end Interval

/-- The questions about what two intervals share have answers that agree: whether they share
anything, what they share, and what they share if they have to share something. None of them is
refused because an interval would be invalid. -/
structure ConcordantMeet (tryIntersect : ι → ι → Except Fault (Option ι))
    (intersect : ι → ι → Except Fault ι) (overlaps : ι → ι → Except Fault Bool)
    (render : ι → String) (mine theirs : ι) : Prop where
  /-- Intersection is not refused. -/
  valid : ∀ cause, tryIntersect mine theirs ≠ .error (.interval cause)
  /-- The intervals overlap exactly if they have an intersection. -/
  overlaps_iff : overlaps mine theirs = .ok true ↔
    ∃ shared, tryIntersect mine theirs = .ok (some shared)
  /-- The intervals do not overlap exactly if they have no intersection. -/
  apart_iff : overlaps mine theirs = .ok false ↔ tryIntersect mine theirs = .ok none
  /-- An intersection that has to be there is the same one. -/
  intersect_iff : ∀ shared, intersect mine theirs = .ok shared ↔
    tryIntersect mine theirs = .ok (some shared)
  /-- It is refused exactly if there is none, and then as the intersection of disjoint intervals. -/
  disjoint_iff : ∀ cause, intersect mine theirs = .error (.interval cause) ↔
    tryIntersect mine theirs = .ok none ∧ cause = .disjoint (render mine) (render theirs)

/-- The three questions agree wherever the other two are put through to intersection. -/
theorem ConcordantMeet.of_valid {tryIntersect : ι → ι → Except Fault (Option ι)}
    {intersect : ι → ι → Except Fault ι} {overlaps : ι → ι → Except Fault Bool}
    {render : ι → String} {mine theirs : ι}
    (hvalid : ∀ cause, tryIntersect mine theirs ≠ .error (.interval cause))
    (hoverlaps : overlaps mine theirs = do return (← tryIntersect mine theirs).isSome)
    (hintersect : intersect mine theirs = tryIntersect mine theirs >>= fun shared? =>
      shared?.elim (.error (.interval (.disjoint (render mine) (render theirs)))) .ok) :
    ConcordantMeet tryIntersect intersect overlaps render mine theirs := by
  cases hresult : tryIntersect mine theirs with
  | error fault =>
    rw [hresult] at hoverlaps hintersect
    have hfault : ∀ cause, fault ≠ .interval cause :=
      fun cause h => hvalid cause (hresult.trans (congrArg Except.error h))
    constructor
    all_goals simp [hresult, hoverlaps, hintersect, hfault, bind, Except.bind]
  | ok shared? =>
    rw [hresult] at hoverlaps hintersect
    cases shared? with
    | none =>
      constructor
      all_goals
        simp [hresult, hoverlaps, hintersect, bind, Except.bind, pure, Except.pure, eq_comm]
    | some shared =>
      constructor
      all_goals simp [hresult, hoverlaps, hintersect, bind, Except.bind, pure, Except.pure]

namespace Interval

/-- Over a domain whose comparisons fail in ways of their own, the questions about what two
intervals share agree, whether the intervals are valid or not. -/
theorem concordantMeet {domain : Domain α} {values : α → Prop}
    (h : domain.FaultsApartOn values) {mine theirs : Interval α} (hmine : mine.Within values)
    (htheirs : theirs.Within values) :
    ConcordantMeet (tryIntersect domain) (intersect domain) (overlaps domain) (render domain) mine
      theirs := by
  refine .of_valid (fun cause hcause => ?_) rfl (intersect_eq mine theirs)
  obtain ⟨a, b, ha, hb, hcompare⟩ := accountsFor_tryIntersect hmine htheirs _ hcause
  exact h a b cause ha hb hcompare

end Interval

/-- What a comparison answers for has been read: no scheme compares texts. -/
theorem SpanOrder.read_of_compare {order : SpanOrder} {a b : Scalar} {result : Int}
    (h : order.domain.compare a b = .ok result) : order.read a = a ∧ order.read b = b := by
  cases order with
  | natural => exact ⟨rfl, rfl⟩
  | ranked scheme =>
    cases a with
    | version v =>
      cases b with
      | version w => exact ⟨rfl, rfl⟩
      | boolean _ => cases h
      | integer _ => cases h
      | real _ => cases h
      | text _ => cases h
    | boolean _ => cases h
    | integer _ => cases h
    | real _ => cases h
    | text _ => cases h

namespace Span

/-- The spans that any sequence of calls arrives at: they are formed as one of the shapes or with
boundaries named by words, or they are what two such spans share. The spans that are combined need
not follow one order. -/
inductive Built : Span → Prop where
  | ofShape {order : SpanOrder} {shape : Shape} {first? second? : Option Scalar} {span : Span} :
    order.ofShape shape first? second? = .ok span → Built span
  | ofWords {order : SpanOrder} {leftWord rightWord : String} {left? right? : Option Scalar}
    {span : Span} : order.ofWords leftWord left? rightWord right? = .ok span → Built span
  | tryIntersect {mine theirs shared : Span} : Built mine → Built theirs →
    mine.tryIntersect theirs = .ok (some shared) → Built shared
  | intersect {mine theirs shared : Span} : Built mine → Built theirs →
    mine.intersect theirs = .ok shared → Built shared

/-- Reading the values of a satisfiable interval again leaves it satisfiable. -/
theorem isSatisfiable_read {order : SpanOrder} {i : Interval Scalar}
    (h : i.isSatisfiable order.domain = .ok true) :
    isSatisfiable ⟨order, i.map order.read⟩ = .ok true := by
  obtain ⟨left, right⟩ := i
  cases left with
  | unbounded => rfl
  | bounded leftClosed a =>
    cases right with
    | unbounded => rfl
    | bounded rightClosed b =>
      -- Where both sides are bounded, their values have been compared, so they have been read.
      obtain ⟨result, hresult, _⟩ := ok_of_bind (h : (order.domain.compare a b >>= _) = _)
      obtain ⟨ha, hb⟩ := SpanOrder.read_of_compare hresult
      rw [Interval.map, Endpoint.map, Endpoint.map, ha, hb]
      exact h

/-- Whether two spans may be combined: spans of two schemes may not. -/
def combinable (mine theirs : Span) : Except Fault Unit :=
  match mine.scheme?, theirs.scheme? with
  | some scheme, some other => scheme.agree other
  | _, _ => .ok ()

/-- Spans that may be combined are combined as their intervals are, in the order of the first one,
and the endpoints are read again. -/
theorem tryIntersect_eq_bind (mine theirs : Span) :
    mine.tryIntersect theirs = mine.combinable theirs >>= fun _ =>
      mine.interval.tryIntersect mine.domain theirs.interval >>= fun shared? =>
        .ok (shared?.map fun shared => ⟨mine.order, shared.map mine.order.read⟩) := by
  simp only [tryIntersect, combinable]
  cases mine.scheme? with
  | none => rfl
  | some scheme => cases theirs.scheme? <;> rfl

/-- What two spans share is what their intervals share in the order of the first one, read again. -/
theorem interval_of_tryIntersect {mine theirs shared : Span}
    (h : mine.tryIntersect theirs = .ok (some shared)) :
    ∃ i, mine.interval.tryIntersect mine.domain theirs.interval = .ok (some i) ∧
      shared = ⟨mine.order, i.map mine.order.read⟩ := by
  rw [tryIntersect_eq_bind] at h
  obtain ⟨_, _, h⟩ := ok_of_bind h
  obtain ⟨shared?, htry, h⟩ := ok_of_bind h
  cases shared? with
  | none => cases h
  | some i =>
    cases h
    exact ⟨i, htry, rfl⟩

theorem combinable_ne (mine theirs : Span) (cause : IntervalFault) :
    mine.combinable theirs ≠ .error (.interval cause) := by
  unfold combinable
  split
  next scheme other _ _ =>
    unfold Scheme.agree
    split <;> exact nofun
  next => exact nofun

theorem isSatisfiable_of_tryIntersect {mine theirs shared : Span}
    (h : mine.tryIntersect theirs = .ok (some shared)) : shared.isSatisfiable = .ok true := by
  obtain ⟨i, htry, rfl⟩ := interval_of_tryIntersect h
  exact isSatisfiable_read (Interval.isSatisfiable_of_tryIntersect htry)

theorem intersect_eq (mine theirs : Span) :
    mine.intersect theirs = mine.tryIntersect theirs >>= fun shared? =>
      shared?.elim (.error (.interval (.disjoint mine.render theirs.render))) .ok := by
  rw [intersect]
  cases mine.tryIntersect theirs with
  | error fault => rfl
  | ok shared? => cases shared? <;> rfl

/-- Every span that can be built is satisfiable, whichever orders have been combined. -/
theorem Built.isSatisfiable {span : Span} (h : Built span) : span.isSatisfiable = .ok true := by
  cases h with
  | ofShape h =>
    obtain ⟨i, hi, hspan⟩ := ok_of_bind h
    cases hspan
    exact Interval.isSatisfiable_of_make hi
  | ofWords h =>
    obtain ⟨i, hi, hspan⟩ := ok_of_bind h
    cases hspan
    exact Interval.isSatisfiable_of_ofWords hi
  | tryIntersect _ _ h => exact isSatisfiable_of_tryIntersect h
  | intersect _ _ h =>
    rw [intersect_eq] at h
    exact isSatisfiable_of_tryIntersect (ok_of_elim h)

/-- Over an order whose comparisons fail in ways of their own, the questions about what two spans
share agree, whichever order the second span follows. -/
theorem concordantMeet {values : Scalar → Prop} {mine theirs : Span}
    (h : mine.domain.FaultsApartOn values) (hmine : mine.interval.Within values)
    (htheirs : theirs.interval.Within values) :
    ConcordantMeet tryIntersect intersect overlaps render mine theirs := by
  refine .of_valid (fun cause hcause => ?_) rfl (intersect_eq mine theirs)
  rw [tryIntersect_eq_bind] at hcause
  obtain hmixed | ⟨_, _, hcause⟩ := error_of_bind hcause
  · exact combinable_ne mine theirs cause hmixed
  · obtain hinner | ⟨shared?, _, hlast⟩ := error_of_bind hcause
    · exact (Interval.concordantMeet h hmine htheirs).valid cause hinner
    · cases hlast

end Span

/-- Values in their own order fail to compare only by being of unrelated kinds. -/
theorem Scalar.faultsApartOn_natural (values : Scalar → Prop) :
    natural.FaultsApartOn values := by
  intro a b cause _ _ h
  change compare a b = _ at h
  unfold compare at h
  split at h
  next => cases h
  next => cases h
  next =>
    split at h
    next => cases h
    next => cases h

/-- Validity is kept by any sequence of calls, whatever the comparison of values is, for intervals
over any domain and for spans. Everything that can be built is satisfiable. Unless comparing values
itself fails as the forming of an interval does, intersection is never refused as invalid, overlap
agrees with it, and an intersection that has to be there is refused exactly if there is none. And
where comparing values answers, so does intersection. -/
theorem validity_closed :
    (∀ (α : Type) (domain : Domain α),
      (∀ i, Interval.Built domain i → i.isSatisfiable domain = .ok true) ∧
      (∀ (values : α → Prop) (mine theirs : Interval α), domain.FaultsApartOn values →
        mine.Within values → theirs.Within values →
        ConcordantMeet (Interval.tryIntersect domain) (Interval.intersect domain)
          (Interval.overlaps domain) (Interval.render domain) mine theirs) ∧
      (∀ (answer : α → α → Int) (values : α → Prop) (mine theirs : Interval α),
        domain.AnswersOn answer values → mine.Within values → theirs.Within values →
        ∃ shared?, mine.tryIntersect domain theirs = .ok shared?)) ∧
    (∀ span, Span.Built span → span.isSatisfiable = .ok true) ∧
    (∀ (values : Scalar → Prop) (mine theirs : Span), mine.domain.FaultsApartOn values →
      mine.interval.Within values → theirs.interval.Within values →
      ConcordantMeet Span.tryIntersect Span.intersect Span.overlaps Span.render mine theirs) ∧
    (∀ (order : SpanOrder) (answer : Scalar → Scalar → Int) (values : Scalar → Prop)
      (mine theirs : Interval Scalar), order.domain.AnswersOn answer values →
      mine.Within values → theirs.Within values →
      ∃ shared?, Span.tryIntersect ⟨order, mine⟩ ⟨order, theirs⟩ = .ok shared?) := by
  refine ⟨?_, ?_, ?_, ?_⟩
  · intro α domain
    refine ⟨fun i hi => hi.isSatisfiable, ?_, ?_⟩
    · intro values mine theirs h hmine htheirs
      exact Interval.concordantMeet h hmine htheirs
    · intro answer values mine theirs h hmine htheirs
      exact ⟨_, Interval.tryIntersect_eq h hmine htheirs⟩
  · intro span hspan
    exact hspan.isSatisfiable
  · intro values mine theirs h hmine htheirs
    exact Span.concordantMeet h hmine htheirs
  · intro order answer values mine theirs h hmine htheirs
    rw [Span.tryIntersect_eq, Interval.tryIntersect_eq h hmine htheirs]
    exact ⟨_, rfl⟩

/-- Comparisons that are no order are among them: the default scheme goes round in a circle from
`1` to `1-sp` to `1.0-alpha`, and what has no size ties with every number, so that what `[nan, *)`
and `(*, 1]` share is `[nan, 1]`. -/
theorem validity_closed_unordered :
    (Scheme.mavenDefault.domain.FaultsApartOn (fun _ => True) ∧
      ConcordantMeet (Interval.tryIntersect Scheme.mavenDefault.domain)
        (Interval.intersect Scheme.mavenDefault.domain)
        (Interval.overlaps Scheme.mavenDefault.domain)
        (Interval.render Scheme.mavenDefault.domain)
        ⟨.bounded true (.ofString "1"), .bounded true (.ofString "1-sp")⟩
        ⟨.bounded false (.ofString "1-sp"), .bounded true (.ofString "1.0-alpha")⟩) ∧
    (Interval.Built Scheme.mavenDefault.domain
        ⟨.bounded true (.ofString "1-sp"), .bounded true (.ofString "1.0-alpha")⟩ ∧
      Interval.isSatisfiable Scheme.mavenDefault.domain
        ⟨.bounded true (.ofString "1-sp"), .bounded true (.ofString "1.0-alpha")⟩ = .ok true) ∧
    (Span.Built ⟨.natural, ⟨.bounded true (.real .nan), .bounded true (.integer 1)⟩⟩ ∧
      Span.isSatisfiable ⟨.natural, ⟨.bounded true (.real .nan), .bounded true (.integer 1)⟩⟩ =
        .ok true) ∧
    ConcordantMeet Span.tryIntersect Span.intersect Span.overlaps Span.render
      ⟨.natural, ⟨.bounded true (.real .nan), .unbounded⟩⟩
      ⟨.natural, ⟨.unbounded, .bounded true (.integer 1)⟩⟩ := by
  have hanswers : Scheme.mavenDefault.domain.AnswersOn Maven.compare fun _ => True :=
    fun _ _ _ _ => rfl
  have hmaven := Domain.FaultsApartOn.of_answersOn hanswers
  have hformed : Interval.Built Scheme.mavenDefault.domain
      ⟨.bounded true (.ofString "1-sp"), .bounded true (.ofString "1.0-alpha")⟩ := by
    have hmake : Interval.make Scheme.mavenDefault.domain .inclusive (some (.ofString "1-sp"))
        .inclusive (some (.ofString "1.0-alpha")) =
          .ok ⟨.bounded true (.ofString "1-sp"), .bounded true (.ofString "1.0-alpha")⟩ := rfl
    exact .make hmake
  have hnan : Span.Built ⟨.natural, ⟨.bounded true (.real .nan), .bounded true (.integer 1)⟩⟩ := by
    have hleft : SpanOrder.natural.ofShape .atLeast (some (.real .nan)) none =
        .ok ⟨.natural, ⟨.bounded true (.real .nan), .unbounded⟩⟩ := rfl
    have hright : SpanOrder.natural.ofShape .atMost (some (.integer 1)) none =
        .ok ⟨.natural, ⟨.unbounded, .bounded true (.integer 1)⟩⟩ := rfl
    exact .tryIntersect (.ofShape hleft) (.ofShape hright) rfl
  refine ⟨⟨hmaven, ?_⟩, ⟨hformed, ?_⟩, ⟨hnan, ?_⟩, ?_⟩
  · exact (validity_closed.1 _ _).2.1 _ _ _ hmaven ⟨trivial, trivial⟩ ⟨trivial, trivial⟩
  · exact (validity_closed.1 _ _).1 _ hformed
  · exact validity_closed.2.1 _ hnan
  · exact validity_closed.2.2.1 (fun _ => True) _ _ (Scalar.faultsApartOn_natural _)
      ⟨trivial, trivial⟩ ⟨trivial, trivial⟩

end VersionOrder
