import VersionOrder.Proofs.FamilyOrder
import VersionOrder.Proofs.Interval.Order
import VersionOrder.Proofs.Interval.Validity

/-!
# Versions in their own order

The operators of versions ask the default scheme, and an interval of plain values orders them by the
difference of two operators. As every answer of the default scheme is its own sign, nothing is lost
on the way: intervals of versions in their own order and intervals in the order of the default
scheme are accepted, refused and combined alike, although that order is not transitive.

## Main definitions

- `Version.isBelow`, `Version.isAbove`: the operators
- `Version.natural`: versions in the order that the operators give them
- `Span.BuiltAlike`: spans built by the same calls, in the two orders
- `Span.AnswerAlike`: two pairs of spans about which every question has the same answer
-/

namespace VersionOrder

namespace Version

/-- The operator `<`. -/
def isBelow (left right : Version) : Except Fault Bool :=
  return (← left.compareDefault right) < 0

/-- The operator `>`. -/
def isAbove (left right : Version) : Except Fault Bool :=
  return 0 < (← left.compareDefault right)

/-- Versions in the order that their operators give them: one is asked after the other. -/
def natural : Domain Version where
  compare left right := do
    let above ← left.isAbove right
    let below ← left.isBelow right
    return above.toInt - below.toInt
  render := toString

end Version

/-! ### Every answer of the default scheme is its own sign -/

theorem sign_signum (m n : Int) : (signum m n).sign = signum m n := by
  unfold signum
  split
  · rfl
  · split <;> rfl

theorem sign_decisive {results : List Int} (h : ∀ r ∈ results, r.sign = r) :
    (decisive results).sign = decisive results := by
  induction results with
  | nil => rfl
  | cons r rest ih =>
    by_cases hr : r = 0
    · simpa [decisive, hr] using ih fun s hs => h s (List.mem_cons_of_mem _ hs)
    · simpa [decisive, hr] using h r List.mem_cons_self

theorem Text.sign_compare (s t : Text) : (compare s t).sign = compare s t := by
  induction s generalizing t with
  | nil => cases t <;> rfl
  | cons a s ih =>
    cases t with
    | nil => rfl
    | cons b t =>
      simp only [compare]
      split
      · rfl
      · split
        · rfl
        · exact ih t

theorem Item.sign_compare_self {order : QualifierOrder}
    (hq : ∀ p q, (order.compare p q).sign = order.compare p q)
    (hrelease : ∀ q, (order.compareToRelease q).sign = order.compareToRelease q) (a b : Item) :
    (compare order a b).sign = compare order a b := by
  have hmarker : ∀ item, (compareToMarker order item).sign = compareToMarker order item := by
    intro item
    cases item with
    | numeric n => by_cases h : n = 0 <;> simp [compareToMarker, h]
    | qualifier q => exact hrelease q
    | releaseMarker => rfl
  cases a with
  | numeric m =>
    cases b with
    | numeric n => exact sign_signum m n
    | qualifier q => rfl
    | releaseMarker => exact hmarker (.numeric m)
  | qualifier p =>
    cases b with
    | numeric n => rfl
    | qualifier q => exact hq p q
    | releaseMarker => exact hmarker (.qualifier p)
  | releaseMarker =>
    cases b with
    | numeric n =>
      show (-compareToMarker order (.numeric n)).sign = -compareToMarker order (.numeric n)
      rw [Int.sign_neg, hmarker]
    | qualifier q =>
      show (-compareToMarker order (.qualifier q)).sign = -compareToMarker order (.qualifier q)
      rw [Int.sign_neg, hmarker]
    | releaseMarker => rfl

namespace Maven

theorem sign_compareQualifiers (p q : Text) :
    (compareQualifiers p q).sign = compareQualifiers p q := by
  unfold compareQualifiers
  dsimp only
  split
  · exact Text.sign_compare _ _
  · exact sign_signum _ _

theorem sign_compare (v w : Version) : (compare v w).sign = compare v w := by
  apply sign_decisive
  intro r hr
  obtain ⟨⟨a, b⟩, _, rfl⟩ := List.mem_map.1 hr
  exact Item.sign_compare_self sign_compareQualifiers (fun q => sign_compareQualifiers q []) a b

end Maven

/-- The difference of the two operators is the sign of the comparison. -/
theorem toInt_sub_toInt (r : Int) :
    (decide (0 < r)).toInt - (decide (r < 0)).toInt = r.sign := by
  obtain hlt | heq | hgt := Int.lt_trichotomy r 0
  · rw [Int.sign_eq_neg_one_of_neg hlt, decide_eq_true hlt, decide_eq_false (by omega)]
    rfl
  · rw [heq]
    rfl
  · rw [Int.sign_eq_one_of_pos hgt, decide_eq_true hgt, decide_eq_false (by omega)]
    rfl

theorem Version.compare_natural (v w : Version) :
    natural.compare v w = .ok (Maven.compare v w) := by
  have hdifference := toInt_sub_toInt (Maven.compare v w)
  rw [Maven.sign_compare] at hdifference
  show Except.ok _ = Except.ok _
  exact congrArg Except.ok hdifference

theorem Version.natural_eq : natural = Scheme.mavenDefault.domain := by
  have hcompare : natural.compare = Scheme.mavenDefault.domain.compare := by
    funext v w
    rw [compare_natural]
    rfl
  show Domain.mk natural.compare toString = Domain.mk Scheme.mavenDefault.domain.compare toString
  rw [hcompare]

/-! ### Forming intervals over domains that agree -/

namespace Interval

variable {α : Type} {mine theirs : Domain α} {answer : α → α → Int} {values : α → Prop}

theorem within_of_endpointMake {side : Side} {boundary : Boundary} {value? : Option α}
    {e : Endpoint α} (h : Endpoint.make side boundary value? = .ok e)
    (hvalue : ∀ v ∈ value?, values v) : e.Within values := by
  cases boundary with
  | unbounded =>
    cases h
    trivial
  | inclusive =>
    cases value? with
    | none => cases h
    | some v =>
      cases h
      exact hvalue v rfl
  | exclusive =>
    cases value? with
    | none => cases h
    | some v =>
      cases h
      exact hvalue v rfl

section Congruence

variable (hmine : mine.AnswersOn answer values) (htheirs : theirs.AnswersOn answer values)
  (hrender : mine.render = theirs.render)

include hmine htheirs hrender

theorem ofEndpoints_congr {left right : Endpoint α} (hleft : left.Within values)
    (hright : right.Within values) :
    ofEndpoints mine left right = ofEndpoints theirs left right := by
  cases left with
  | unbounded => rfl
  | bounded leftClosed a =>
    cases right with
    | unbounded => rfl
    | bounded rightClosed b =>
      simp only [ofEndpoints, hmine a b hleft hright, htheirs a b hleft hright, hrender]

/-- Domains with the same answers accept the same boundaries and values, and refuse the others for
the same reason. -/
theorem make_congr {leftBoundary rightBoundary : Boundary} {left? right? : Option α}
    (hleft : ∀ v ∈ left?, values v) (hright : ∀ v ∈ right?, values v) :
    make mine leftBoundary left? rightBoundary right? =
      make theirs leftBoundary left? rightBoundary right? := by
  unfold make
  cases hl : Endpoint.make .left leftBoundary left? with
  | error fault => rfl
  | ok left =>
    cases hr : Endpoint.make .right rightBoundary right? with
    | error fault => rfl
    | ok right =>
      exact ofEndpoints_congr hmine htheirs hrender (within_of_endpointMake hl hleft)
        (within_of_endpointMake hr hright)

theorem ofWords_congr {leftWord rightWord : String} {left? right? : Option α}
    (hleft : ∀ v ∈ left?, values v) (hright : ∀ v ∈ right?, values v) :
    ofWords mine leftWord left? rightWord right? =
      ofWords theirs leftWord left? rightWord right? := by
  unfold ofWords
  split
  · rfl
  · rfl
  · exact make_congr hmine htheirs hrender hleft hright

theorem ofShape_congr {shape : Shape} {first? second? : Option α}
    (hfirst : ∀ v ∈ first?, values v) (hsecond : ∀ v ∈ second?, values v) :
    ofShape mine shape first? second? = ofShape theirs shape first? second? := by
  apply make_congr hmine htheirs hrender hfirst
  split
  · exact hfirst
  · exact hsecond

end Congruence

theorem within_of_make {leftBoundary rightBoundary : Boundary} {left? right? : Option α}
    {i : Interval α} (h : make mine leftBoundary left? rightBoundary right? = .ok i)
    (hleft : ∀ v ∈ left?, values v) (hright : ∀ v ∈ right?, values v) : i.Within values := by
  obtain ⟨left, hl, h⟩ := ok_of_bind h
  obtain ⟨right, hr, h⟩ := ok_of_bind h
  rw [eq_of_ofEndpoints h]
  exact ⟨within_of_endpointMake hl hleft, within_of_endpointMake hr hright⟩

theorem within_of_ofWords {leftWord rightWord : String} {left? right? : Option α} {i : Interval α}
    (h : ofWords mine leftWord left? rightWord right? = .ok i) (hleft : ∀ v ∈ left?, values v)
    (hright : ∀ v ∈ right?, values v) : i.Within values := by
  unfold ofWords at h
  split at h
  · cases h
  · cases h
  · exact within_of_make h hleft hright

theorem within_of_ofShape {shape : Shape} {first? second? : Option α} {i : Interval α}
    (h : ofShape mine shape first? second? = .ok i) (hfirst : ∀ v ∈ first?, values v)
    (hsecond : ∀ v ∈ second?, values v) : i.Within values := by
  apply within_of_make h hfirst
  split
  · exact hfirst
  · exact hsecond

/-- Whether a right endpoint ends before a left one begins. -/
def leavesGapBy (answer : α → α → Int) : Endpoint α → Endpoint α → Bool
  | .bounded mineClosed a, .bounded theirsClosed b =>
    answer a b < 0 || (answer a b = 0 && !(mineClosed && theirsClosed))
  | _, _ => false

/-- Precedence is a function of the answers, whether they are an order or not. -/
theorem isStrictlyBefore_eq_leavesGapBy {domain : Domain α} (h : domain.AnswersOn answer values)
    {i j : Interval α} (hi : i.Within values) (hj : j.Within values) :
    isStrictlyBefore domain i j = .ok (leavesGapBy answer i.right j.left) := by
  obtain ⟨iLeft, iRight⟩ := i
  obtain ⟨jLeft, jRight⟩ := j
  cases iRight with
  | unbounded => cases jLeft <;> rfl
  | bounded mineClosed a =>
    cases jLeft with
    | unbounded => rfl
    | bounded theirsClosed b =>
      have hcompare : domain.compare a b = .ok (answer a b) := h a b hi.right hj.left
      simp only [isStrictlyBefore, hcompare]
      rfl

end Interval

/-! ### The two orders of versions as scalars -/

/-- A value that is a version. -/
def Scalar.IsVersion (x : Scalar) : Prop :=
  ∃ v, x = .version v

namespace SpanOrder

/-- An order in which versions are compared as the default scheme compares them, and written and
read as they are. -/
structure PlacesVersions (order : SpanOrder) : Prop where
  answers : order.domain.AnswersOn (byVersion Maven.compare) Scalar.IsVersion
  render : order.domain.render = Scalar.render
  read : ∀ x, x.IsVersion → order.read x = x

theorem placesVersions_natural : PlacesVersions .natural := by
  constructor
  · rintro _ _ ⟨v, rfl⟩ ⟨w, rfl⟩
    rfl
  · rfl
  · exact fun _ _ => rfl

theorem placesVersions_mavenDefault : PlacesVersions (.ranked .mavenDefault) := by
  constructor
  · rintro _ _ ⟨v, rfl⟩ ⟨w, rfl⟩
    rfl
  · rfl
  · rintro _ ⟨v, rfl⟩
    rfl

variable {order other : SpanOrder}

theorem PlacesVersions.read_versions (h : order.PlacesVersions) (v? : Option Version) :
    (v?.map Scalar.version).map order.read = v?.map .version := by
  cases v? with
  | none => rfl
  | some v => exact congrArg some (h.read _ ⟨v, rfl⟩)

end SpanOrder

theorem isVersion_of_mem_map {v? : Option Version} {x : Scalar} (h : x ∈ v?.map Scalar.version) :
    x.IsVersion := by
  obtain ⟨v, _, rfl⟩ := Option.map_eq_some_iff.1 h
  exact ⟨v, rfl⟩

namespace Span

open SpanOrder

/-- Two results with the same value. -/
def SameValue {γ : Type} (mine theirs : Except Fault γ) : Prop :=
  ∃ value, mine = .ok value ∧ theirs = .ok value

/-- Every question about a first pair of spans has the same answer as about a second pair: which
versions lie in the first span, whether it can have members, whether the two overlap, how they
compare, whether the first is before the second, and between which endpoints what they share
lies. -/
structure AnswerAlike (mine theirs mine' theirs' : Span) : Prop where
  contains : ∀ v, SameValue (mine.contains (some (.version v))) (mine'.contains (some (.version v)))
  isSatisfiable : SameValue mine.isSatisfiable mine'.isSatisfiable
  overlaps : SameValue (mine.overlaps theirs) (mine'.overlaps theirs')
  compare : SameValue (mine.compare theirs) (mine'.compare theirs')
  isStrictlyBefore : SameValue (mine.isStrictlyBefore theirs) (mine'.isStrictlyBefore theirs')
  tryIntersect : SameValue ((mine.tryIntersect theirs).map (Option.map interval))
    ((mine'.tryIntersect theirs').map (Option.map interval))

/-- Spans of versions that are built by the same calls, the first one in the versions' own order and
the second one in the order of the default scheme. -/
inductive BuiltAlike : Span → Span → Prop where
  | ofWords {leftWord rightWord : String} {left? right? : Option Version} {mine mine' : Span} :
    SpanOrder.natural.ofWords leftWord (left?.map .version) rightWord (right?.map .version) =
      .ok mine →
    (SpanOrder.ranked .mavenDefault).ofWords leftWord (left?.map .version) rightWord
      (right?.map .version) = .ok mine' → BuiltAlike mine mine'
  | ofShape {shape : Shape} {first? second? : Option Version} {mine mine' : Span} :
    SpanOrder.natural.ofShape shape (first?.map .version) (second?.map .version) = .ok mine →
    (SpanOrder.ranked .mavenDefault).ofShape shape (first?.map .version) (second?.map .version) =
      .ok mine' → BuiltAlike mine mine'
  | tryIntersect {mine mine' theirs theirs' shared shared' : Span} : BuiltAlike mine mine' →
    BuiltAlike theirs theirs' → mine.tryIntersect theirs = .ok (some shared) →
    mine'.tryIntersect theirs' = .ok (some shared') → BuiltAlike shared shared'

variable {order other : SpanOrder} {i j : Interval Scalar}

/-- What two spans of versions share is formed from endpoints that need not be read again. -/
theorem tryIntersect_versions (h : order.PlacesVersions) (hi : i.Within Scalar.IsVersion)
    (hj : j.Within Scalar.IsVersion) :
    tryIntersect ⟨order, i⟩ ⟨order, j⟩ =
      .ok ((Interval.meetBy (byVersion Maven.compare) i j).map (Span.mk order)) := by
  rw [tryIntersect_eq, Interval.tryIntersect_eq h.answers hi hj]
  apply congrArg Except.ok
  apply Option.map_congr
  intro shared hshared
  rw [Interval.map_eq_self h.read (Interval.within_of_meetBy hi hj hshared)]

/-- The answers about spans of versions do not depend on which of the orders the spans follow. -/
theorem answerAlike (h : order.PlacesVersions) (hother : other.PlacesVersions)
    (hi : i.Within Scalar.IsVersion) (hj : j.Within Scalar.IsVersion) :
    AnswerAlike ⟨order, i⟩ ⟨order, j⟩ ⟨other, i⟩ ⟨other, j⟩ := by
  constructor
  · intro v
    have hmember : ∀ {o : SpanOrder}, o.PlacesVersions →
        contains ⟨o, i⟩ (some (.version v)) =
          .ok (i.memberBy (byVersion Maven.compare) (.version v)) := by
      intro o ho
      show i.contains o.domain (o.read (.version v)) = _
      rw [ho.read _ ⟨v, rfl⟩]
      exact Interval.contains_eq ho.answers hi ⟨v, rfl⟩
    exact ⟨_, hmember h, hmember hother⟩
  · exact ⟨_, Interval.leavesRoom_eq h.answers hi.left hi.right,
      Interval.leavesRoom_eq hother.answers hi.left hi.right⟩
  · have hoverlaps : ∀ {o : SpanOrder}, o.PlacesVersions → overlaps ⟨o, i⟩ ⟨o, j⟩ =
        .ok (Interval.meetBy (byVersion Maven.compare) i j).isSome := by
      intro o ho
      rw [overlaps_eq, Interval.overlaps_eq ho.answers hi hj]
    exact ⟨_, hoverlaps h, hoverlaps hother⟩
  · exact ⟨_, Interval.compare_eq h.answers hi hj, Interval.compare_eq hother.answers hi hj⟩
  · exact ⟨_, Interval.isStrictlyBefore_eq_leavesGapBy h.answers hi hj,
      Interval.isStrictlyBefore_eq_leavesGapBy hother.answers hi hj⟩
  · have hshared : ∀ {o : SpanOrder}, o.PlacesVersions →
        (tryIntersect ⟨o, i⟩ ⟨o, j⟩).map (Option.map interval) =
          .ok (Interval.meetBy (byVersion Maven.compare) i j) := by
      intro o ho
      rw [tryIntersect_versions ho hi hj]
      show Except.ok (((Interval.meetBy _ i j).map (Span.mk o)).map interval) = _
      rw [Option.map_map]
      exact congrArg Except.ok Option.map_id'
    exact ⟨_, hshared h, hshared hother⟩

theorem ofWords_alike (h : order.PlacesVersions) (hother : other.PlacesVersions)
    (leftWord rightWord : String) (left? right? : Option Version) :
    (order.ofWords leftWord (left?.map .version) rightWord (right?.map .version)).map interval =
      (other.ofWords leftWord (left?.map .version) rightWord (right?.map .version)).map
        interval := by
  have hcongr : Interval.ofWords order.domain leftWord (left?.map .version) rightWord
        (right?.map .version) =
      Interval.ofWords other.domain leftWord (left?.map .version) rightWord
        (right?.map .version) := by
    apply Interval.ofWords_congr h.answers hother.answers (h.render.trans hother.render.symm)
    · exact fun _ => isVersion_of_mem_map
    · exact fun _ => isVersion_of_mem_map
  unfold SpanOrder.ofWords
  rw [h.read_versions, h.read_versions, hother.read_versions, hother.read_versions, hcongr]
  cases Interval.ofWords other.domain leftWord (left?.map .version) rightWord (right?.map .version)
    <;> rfl

theorem ofShape_alike (h : order.PlacesVersions) (hother : other.PlacesVersions) (shape : Shape)
    (first? second? : Option Version) :
    (order.ofShape shape (first?.map .version) (second?.map .version)).map interval =
      (other.ofShape shape (first?.map .version) (second?.map .version)).map interval := by
  have hcongr : Interval.ofShape order.domain shape (first?.map .version) (second?.map .version) =
      Interval.ofShape other.domain shape (first?.map .version) (second?.map .version) := by
    apply Interval.ofShape_congr h.answers hother.answers (h.render.trans hother.render.symm)
    · exact fun _ => isVersion_of_mem_map
    · exact fun _ => isVersion_of_mem_map
  unfold SpanOrder.ofShape
  rw [h.read_versions, h.read_versions, hother.read_versions, hother.read_versions, hcongr]
  cases Interval.ofShape other.domain shape (first?.map .version) (second?.map .version) <;> rfl

theorem within_of_ofWords (h : order.PlacesVersions) {leftWord rightWord : String}
    {left? right? : Option Version} {span : Span}
    (hspan : order.ofWords leftWord (left?.map .version) rightWord (right?.map .version) =
      .ok span) : span.order = order ∧ span.interval.Within Scalar.IsVersion := by
  unfold SpanOrder.ofWords at hspan
  rw [h.read_versions, h.read_versions] at hspan
  obtain ⟨i, hi, hspan⟩ := ok_of_bind hspan
  cases hspan
  exact ⟨rfl, Interval.within_of_ofWords hi (fun _ => isVersion_of_mem_map)
    fun _ => isVersion_of_mem_map⟩

theorem within_of_ofShape (h : order.PlacesVersions) {shape : Shape}
    {first? second? : Option Version} {span : Span}
    (hspan : order.ofShape shape (first?.map .version) (second?.map .version) = .ok span) :
    span.order = order ∧ span.interval.Within Scalar.IsVersion := by
  unfold SpanOrder.ofShape at hspan
  rw [h.read_versions, h.read_versions] at hspan
  obtain ⟨i, hi, hspan⟩ := ok_of_bind hspan
  cases hspan
  exact ⟨rfl, Interval.within_of_ofShape hi (fun _ => isVersion_of_mem_map)
    fun _ => isVersion_of_mem_map⟩

theorem interval_eq_of_map_eq {mine mine' : Except Fault Span} {span span' : Span}
    (h : mine.map interval = mine'.map interval) (hspan : mine = .ok span)
    (hspan' : mine' = .ok span') : span.interval = span'.interval := by
  subst hspan
  subst hspan'
  exact Except.ok.inj h

theorem exists_interval_of_eq {mine mine' : Span} (horder : mine.order = order)
    (horder' : mine'.order = other) (hsame : mine.interval = mine'.interval)
    (hwithin : mine.interval.Within Scalar.IsVersion) :
    ∃ i : Interval Scalar, i.Within Scalar.IsVersion ∧ mine = ⟨order, i⟩ ∧ mine' = ⟨other, i⟩ := by
  obtain ⟨_, i⟩ := mine
  obtain ⟨_, i'⟩ := mine'
  cases horder
  cases horder'
  cases hsame
  exact ⟨i, hwithin, rfl, rfl⟩

/-- Spans that are built alike have the same endpoints, which are versions. -/
theorem BuiltAlike.exists_interval {mine mine' : Span} (h : BuiltAlike mine mine') :
    ∃ i : Interval Scalar, i.Within Scalar.IsVersion ∧ mine = ⟨.natural, i⟩ ∧
      mine' = ⟨.ranked .mavenDefault, i⟩ := by
  induction h with
  | ofWords hmine hmine' =>
    have hsame := interval_eq_of_map_eq
      (ofWords_alike placesVersions_natural placesVersions_mavenDefault _ _ _ _) hmine hmine'
    obtain ⟨horder, hwithin⟩ := within_of_ofWords placesVersions_natural hmine
    obtain ⟨horder', _⟩ := within_of_ofWords placesVersions_mavenDefault hmine'
    exact exists_interval_of_eq horder horder' hsame hwithin
  | ofShape hmine hmine' =>
    have hsame := interval_eq_of_map_eq
      (ofShape_alike placesVersions_natural placesVersions_mavenDefault _ _ _) hmine hmine'
    obtain ⟨horder, hwithin⟩ := within_of_ofShape placesVersions_natural hmine
    obtain ⟨horder', _⟩ := within_of_ofShape placesVersions_mavenDefault hmine'
    exact exists_interval_of_eq horder horder' hsame hwithin
  | tryIntersect _ _ hshared hshared' ihMine ihTheirs =>
    obtain ⟨i, hi, rfl, rfl⟩ := ihMine
    obtain ⟨j, hj, rfl, rfl⟩ := ihTheirs
    rw [tryIntersect_versions placesVersions_natural hi hj, Except.ok.injEq,
      Option.map_eq_some_iff] at hshared
    rw [tryIntersect_versions placesVersions_mavenDefault hi hj, Except.ok.injEq,
      Option.map_eq_some_iff] at hshared'
    obtain ⟨k, hk, rfl⟩ := hshared
    obtain ⟨k', hk', rfl⟩ := hshared'
    cases hk.symm.trans hk'
    exact ⟨k, Interval.within_of_meetBy hi hj hk, rfl, rfl⟩

/-- Intervals of versions in the order of their operators and intervals of versions under the
default scheme are the same algebra. The two orders are the same, and so is the versions' order
among scalars. Whatever the boundaries and the versions are, forming an interval gives the same
endpoints or fails with the same fault on both sides. And about spans that are built alike, in any
number of steps, every question has the same answer. -/
theorem natural_algebra_mavenDefault :
    Version.natural = Scheme.mavenDefault.domain ∧
    (∀ v w, Scalar.natural.compare (.version v) (.version w) = Version.natural.compare v w) ∧
    (∀ (leftWord rightWord : String) (left? right? : Option Version),
      (SpanOrder.natural.ofWords leftWord (left?.map .version) rightWord
        (right?.map .version)).map interval =
      ((SpanOrder.ranked .mavenDefault).ofWords leftWord (left?.map .version) rightWord
        (right?.map .version)).map interval) ∧
    (∀ (shape : Shape) (first? second? : Option Version),
      (SpanOrder.natural.ofShape shape (first?.map .version) (second?.map .version)).map interval =
      ((SpanOrder.ranked .mavenDefault).ofShape shape (first?.map .version)
        (second?.map .version)).map interval) ∧
    ∀ mine mine' theirs theirs', BuiltAlike mine mine' → BuiltAlike theirs theirs' →
      AnswerAlike mine theirs mine' theirs' := by
  refine ⟨Version.natural_eq, ?_, ?_, ?_, ?_⟩
  · intro v w
    rw [Version.compare_natural]
    rfl
  · intro leftWord rightWord left? right?
    exact ofWords_alike placesVersions_natural placesVersions_mavenDefault _ _ left? right?
  · intro shape first? second?
    exact ofShape_alike placesVersions_natural placesVersions_mavenDefault shape first? second?
  · intro mine mine' theirs theirs' hmine htheirs
    obtain ⟨i, hi, rfl, rfl⟩ := hmine.exists_interval
    obtain ⟨j, hj, rfl, rfl⟩ := htheirs.exists_interval
    exact answerAlike placesVersions_natural placesVersions_mavenDefault hi hj

/-- That holds although the order goes round in a circle: `[1, 1-sp]` and `(1-sp, 1.0-alpha]` are
accepted on both sides, where the last value comes before the first one. -/
theorem natural_algebra_mavenDefault_circle :
    let mine : Interval Scalar :=
      ⟨.bounded true (.version (.ofString "1")), .bounded true (.version (.ofString "1-sp"))⟩
    let theirs : Interval Scalar :=
      ⟨.bounded false (.version (.ofString "1-sp")),
        .bounded true (.version (.ofString "1.0-alpha"))⟩
    BuiltAlike ⟨.natural, mine⟩ ⟨.ranked .mavenDefault, mine⟩ ∧
      BuiltAlike ⟨.natural, theirs⟩ ⟨.ranked .mavenDefault, theirs⟩ ∧
      AnswerAlike ⟨.natural, mine⟩ ⟨.natural, theirs⟩ ⟨.ranked .mavenDefault, mine⟩
        ⟨.ranked .mavenDefault, theirs⟩ := by
  intro mine theirs
  let one : Option Version := some (.ofString "1")
  let servicePack : Option Version := some (.ofString "1-sp")
  let preRelease : Option Version := some (.ofString "1.0-alpha")
  have hmine : BuiltAlike ⟨.natural, mine⟩ ⟨.ranked .mavenDefault, mine⟩ := by
    have hnatural : SpanOrder.natural.ofWords "closed" (one.map .version) "closed"
      (servicePack.map .version) = .ok ⟨.natural, mine⟩ := rfl
    have hranked : (SpanOrder.ranked .mavenDefault).ofWords "closed" (one.map .version) "closed"
      (servicePack.map .version) = .ok ⟨.ranked .mavenDefault, mine⟩ := rfl
    exact .ofWords hnatural hranked
  have htheirs : BuiltAlike ⟨.natural, theirs⟩ ⟨.ranked .mavenDefault, theirs⟩ := by
    have hnatural : SpanOrder.natural.ofWords "open" (servicePack.map .version) "closed"
      (preRelease.map .version) = .ok ⟨.natural, theirs⟩ := rfl
    have hranked : (SpanOrder.ranked .mavenDefault).ofWords "open" (servicePack.map .version)
      "closed" (preRelease.map .version) = .ok ⟨.ranked .mavenDefault, theirs⟩ := rfl
    exact .ofWords hnatural hranked
  exact ⟨hmine, htheirs, natural_algebra_mavenDefault.2.2.2.2 _ _ _ _ hmine htheirs⟩

end Span

end VersionOrder
