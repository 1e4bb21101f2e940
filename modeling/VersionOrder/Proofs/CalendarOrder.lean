import VersionOrder.Proofs.CalendarParts

/-!
# The order of calendar versions

Two versions with calendar parts are compared by these first, all others by the fallback alone. So the
fallback may lead from a version over one without parts to a version that comes before the first one by
its parts. The main statement says that nothing else keeps the calendar family from being an order where
its fallback is one.

## Main definitions

- `compareWhere`: two comparisons, the first of which is asked only where both sides pass a test
- `Detour`: a way back over a value that does not pass the test
- `Calendar.Detour`: the same for versions and their calendar parts
-/

namespace VersionOrder

section Where

variable {α : Type}

/-- The comparison by `first` and then by `second` where both sides pass the test, and by `second` alone
elsewhere. -/
def compareWhere (test : α → Bool) (first second : α → α → Int) (a b : α) : Int :=
  if test a && test b then (if first a b = 0 then second a b else first a b) else second a b

/-- The first comparison puts `a` before `b`, and the second one leads from `b` back to `a` over a value
that does not pass the test. -/
structure Detour (test : α → Bool) (first second : α → α → Int) (a b c : α) : Prop where
  start : test a = true
  turn : test b = true
  outside : test c = false
  before : first a b < 0
  leaving : second b c ≤ 0
  returning : second c a ≤ 0

variable {test : α → Bool} {first second : α → α → Int} {values : α → Prop} {a b c : α}

theorem compareWhere_of_both (ha : test a = true) (hb : test b = true) :
    compareWhere test first second a b = if first a b = 0 then second a b else first a b := by
  simp [compareWhere, ha, hb]

theorem compareWhere_of_left (h : test a = false) :
    compareWhere test first second a b = second a b := by
  simp [compareWhere, h]

theorem compareWhere_of_right (h : test b = false) :
    compareWhere test first second a b = second a b := by
  simp [compareWhere, h]

theorem Detour.circle (h : Detour test first second a b c) :
    compareWhere test first second a b < 0 ∧ compareWhere test first second b c ≤ 0 ∧
      compareWhere test first second c a ≤ 0 := by
  obtain ⟨ha, hb, hc, hbefore, hleaving, hreturning⟩ := h
  rw [compareWhere_of_both ha hb, if_neg (Int.ne_of_lt hbefore), compareWhere_of_right hc,
    compareWhere_of_left hc]
  exact ⟨hbefore, hleaving, hreturning⟩

section Order

variable (hfirst : SignPreorderOn first fun a => values a ∧ test a = true)
  (hsecond : SignPreorderOn second values)

include hfirst hsecond

theorem signPreorderOn_both : SignPreorderOn
    (fun a b => if first a b = 0 then second a b else first a b) fun a => values a ∧ test a = true :=
  hfirst.lex (hsecond.mono _ fun _ h => h.1)

theorem compareWhere_pos_iff (ha : values a) (hb : values b) :
    0 < compareWhere test first second a b ↔ compareWhere test first second b a < 0 := by
  cases hta : test a with
  | false =>
    rw [compareWhere_of_left hta, compareWhere_of_right hta]
    exact hsecond.pos_iff ha hb
  | true =>
    cases htb : test b with
    | false =>
      rw [compareWhere_of_left htb, compareWhere_of_right htb]
      exact hsecond.pos_iff ha hb
    | true =>
      rw [compareWhere_of_both hta htb, compareWhere_of_both htb hta]
      exact (signPreorderOn_both hfirst hsecond).pos_iff ⟨ha, hta⟩ ⟨hb, htb⟩

omit hfirst in
/-- In a circle around one value outside the test, the other two differ by the first comparison. -/
theorem detour_of_outside (ha : values a) (hb : values b) (hc : values c) (hta : test a = true)
    (htb : test b = true) (htc : test c = false) (hab : compareWhere test first second a b ≤ 0)
    (hbc : compareWhere test first second b c ≤ 0) (hca : compareWhere test first second c a ≤ 0)
    (hne : ¬(compareWhere test first second a b = 0 ∧ compareWhere test first second b c = 0 ∧
      compareWhere test first second c a = 0)) : Detour test first second a b c := by
  rw [compareWhere_of_both hta htb, compareWhere_of_right htc, compareWhere_of_left htc] at hne
  rw [compareWhere_of_both hta htb] at hab
  rw [compareWhere_of_right htc] at hbc
  rw [compareWhere_of_left htc] at hca
  refine ⟨hta, htb, htc, ?_, hbc, hca⟩
  by_cases htie : first a b = 0
  · -- Then the second comparison has a circle of its own, which ties.
    rw [if_pos htie] at hab hne
    exact absurd (hsecond.tie_of_circle ha hb hc hab hbc hca) hne
  · rw [if_neg htie] at hab
    omega

/-- Three values in a circle that do not all tie are a detour, in one of the three ways to go round. -/
theorem detour_of_circle (ha : values a) (hb : values b) (hc : values c)
    (hab : compareWhere test first second a b ≤ 0) (hbc : compareWhere test first second b c ≤ 0)
    (hca : compareWhere test first second c a ≤ 0)
    (hne : ¬(compareWhere test first second a b = 0 ∧ compareWhere test first second b c = 0 ∧
      compareWhere test first second c a = 0)) :
    Detour test first second a b c ∨ Detour test first second b c a ∨
      Detour test first second c a b := by
  have hboth := signPreorderOn_both hfirst hsecond
  -- How many of the three pass the test: all, two, or at most one.
  cases hta : test a <;> cases htb : test b <;> cases htc : test c
  case true.true.true =>
    rw [compareWhere_of_both hta htb, compareWhere_of_both htb htc, compareWhere_of_both htc hta] at hne
    rw [compareWhere_of_both hta htb] at hab
    rw [compareWhere_of_both htb htc] at hbc
    rw [compareWhere_of_both htc hta] at hca
    exact absurd (hboth.tie_of_circle ⟨ha, hta⟩ ⟨hb, htb⟩ ⟨hc, htc⟩ hab hbc hca) hne
  case true.true.false =>
    exact .inl (detour_of_outside hsecond ha hb hc hta htb htc hab hbc hca hne)
  case false.true.true =>
    have hrotated := detour_of_outside hsecond hb hc ha htb htc hta hbc hca hab
    exact .inr (.inl (hrotated fun h => hne ⟨h.2.2, h.1, h.2.1⟩))
  case true.false.true =>
    have hrotated := detour_of_outside hsecond hc ha hb htc hta htb hca hab hbc
    exact .inr (.inr (hrotated fun h => hne ⟨h.2.1, h.2.2, h.1⟩))
  all_goals
    -- No pair passes the test, and the second comparison decides alone.
    simp only [compareWhere, hta, htb, htc, Bool.and_false, Bool.false_and, if_neg,
      Bool.false_eq_true, not_false_eq_true] at hab hbc hca hne
    exact absurd (hsecond.tie_of_circle ha hb hc hab hbc hca) hne

/-- The way from one value over a second one to a third fails exactly in a detour that leads back from
the third one; or in another detour, if the second comparison puts the first value after the third. -/
theorem compareWhere_trans_iff (ha : values a) (hb : values b) (hc : values c)
    (hab : compareWhere test first second a b ≤ 0) (hbc : compareWhere test first second b c ≤ 0) :
    compareWhere test first second a c ≤ 0 ↔
      ¬(Detour test first second c a b ∨
        (Detour test first second a b c ∨ Detour test first second b c a) ∧ 0 < second a c) := by
  constructor
  · rintro hac (h | ⟨h | h, hafter⟩)
    · have hca := (compareWhere_pos_iff hfirst hsecond ha hc).2 h.circle.1
      omega
    · rw [compareWhere_of_right h.outside] at hac
      omega
    · rw [compareWhere_of_left h.outside] at hac
      omega
  · intro hnone
    refine Int.not_lt.1 fun hac => hnone ?_
    have hca := (compareWhere_pos_iff hfirst hsecond ha hc).1 hac
    rcases detour_of_circle hfirst hsecond ha hb hc hab hbc (Int.le_of_lt hca)
      fun htie => Int.ne_of_lt hca htie.2.2 with h | h | h
    · rw [compareWhere_of_right h.outside] at hac
      exact .inr ⟨.inl h, hac⟩
    · rw [compareWhere_of_left h.outside] at hac
      exact .inr ⟨.inr h, hac⟩
    · exact .inl h

/-- The two comparisons together are a preorder exactly if there is no detour. -/
theorem signPreorderOn_compareWhere_iff :
    SignPreorderOn (compareWhere test first second) values ↔
      ∀ a b c, values a → values b → values c → ¬Detour test first second a b c := by
  constructor
  · intro horder a b c ha hb hc hdetour
    obtain ⟨hab, hbc, hca⟩ := hdetour.circle
    have htie := horder.tie_of_circle ha hb hc (Int.le_of_lt hab) hbc hca
    exact Int.ne_of_lt hab htie.1
  · intro hnone
    constructor
    · intro a b ha hb
      exact compareWhere_pos_iff hfirst hsecond ha hb
    · intro a b c ha hb hc hab hbc
      refine (compareWhere_trans_iff hfirst hsecond ha hb hc hab hbc).2 ?_
      rintro (h | ⟨h | h, -⟩)
      · exact hnone c a b hc ha hb h
      · exact hnone a b c ha hb hc h
      · exact hnone b c a hb hc ha h

end Order

end Where

/-- The comparison answers that the first version is not after the second one. -/
def Comparator.NotAfter (comparator : Comparator) (v w : Version) : Prop :=
  ∃ r, comparator.compare v w = .ok r ∧ r ≤ 0

namespace Calendar

/-- The first version has the earlier calendar parts of the first two, and the fallback leads from the
second one back to it over a version without calendar parts. -/
def Detour (fallback : Comparator) (u v w : Version) : Prop :=
  ∃ earlier later, parts u = .ok earlier ∧ parts v = .ok later ∧ parts w = .ok [] ∧
    earlier ≠ [] ∧ later ≠ [] ∧ compareParts earlier later < 0 ∧
    fallback.NotAfter v w ∧ fallback.NotAfter w u

/-- The calendar parts of a version that can be read. -/
def date (v : Version) : List Nat :=
  (parts v).toOption.getD []

def dated (v : Version) : Bool :=
  !(date v).isEmpty

/-- The order of the dates of two versions. -/
def compareDates (v w : Version) : Int :=
  compareParts (date v) (date w)

theorem parts_eq_date {v : Version} (h : Answers (parts v)) : parts v = .ok (date v) := by
  obtain ⟨found, hfound⟩ := h
  rw [date, hfound]
  rfl

theorem dated_eq_false_iff {v : Version} : dated v = false ↔ date v = [] := by
  cases h : date v <;> simp [dated, h]

theorem dated_iff {v : Version} : dated v = true ↔ date v ≠ [] := by
  rw [ne_eq, ← dated_eq_false_iff, Bool.not_eq_false]

theorem signPreorderOn_compareDates (versions : Version → Prop) :
    SignPreorderOn compareDates versions := by
  have hnumbers : SignPreorderOn (fun m n : Nat => signum m n) fun _ => True :=
    signPreorderOn_signum.comap fun n : Nat => (n : Int)
  have hlists : SignPreorderOn compareParts fun date => ∀ n ∈ date, True := hnumbers.padded trivial
  exact (hlists.comap date).mono versions fun _ _ _ _ => trivial

end Calendar

namespace Comparator

variable {fallback : Comparator} {versions : Version → Prop} {answer : Version → Version → Int}
  {u v w : Version}

section Answers

variable (hanswer : ∀ v w, versions v → versions w → fallback.compare v w = .ok (answer v w))
  (hread : ∀ v, versions v → Answers (Calendar.parts v))

include hanswer

omit hread in
theorem notAfter_iff (hv : versions v) (hw : versions w) :
    fallback.NotAfter v w ↔ answer v w ≤ 0 := by
  simp [NotAfter, hanswer v w hv hw]

include hread

theorem calendar_compare_eq (hv : versions v) (hw : versions w) :
    (calendar fallback).compare v w =
      .ok (compareWhere Calendar.dated Calendar.compareDates answer v w) := by
  have hpv := Calendar.parts_eq_date (hread v hv)
  have hpw := Calendar.parts_eq_date (hread w hw)
  cases hdv : Calendar.dated v with
  | false =>
    rw [calendar_compare_of_none hpv hpw (.inl (Calendar.dated_eq_false_iff.1 hdv)),
      compareWhere_of_left hdv, hanswer v w hv hw]
  | true =>
    cases hdw : Calendar.dated w with
    | false =>
      rw [calendar_compare_of_none hpv hpw (.inr (Calendar.dated_eq_false_iff.1 hdw)),
        compareWhere_of_right hdw, hanswer v w hv hw]
    | true =>
      rw [calendar_compare_of_parts hpv hpw (Calendar.dated_iff.1 hdv) (Calendar.dated_iff.1 hdw),
        compareWhere_of_both hdv hdw, hanswer v w hv hw, ← Calendar.compareDates]
      split <;> rfl

theorem calendar_detour_iff (hu : versions u) (hv : versions v) (hw : versions w) :
    Calendar.Detour fallback u v w ↔
      Detour Calendar.dated Calendar.compareDates answer u v w := by
  rw [Calendar.Detour, Calendar.parts_eq_date (hread u hu), Calendar.parts_eq_date (hread v hv),
    Calendar.parts_eq_date (hread w hw), notAfter_iff hanswer hv hw, notAfter_iff hanswer hw hu]
  constructor
  · rintro ⟨earlier, later, he, hl, hnone, hearlier, hlater, hlt, hleaving, hreturning⟩
    obtain rfl := Except.ok.inj he
    obtain rfl := Except.ok.inj hl
    exact ⟨Calendar.dated_iff.2 hearlier, Calendar.dated_iff.2 hlater,
      Calendar.dated_eq_false_iff.2 (Except.ok.inj hnone), hlt, hleaving, hreturning⟩
  · rintro ⟨hstart, hturn, houtside, hlt, hleaving, hreturning⟩
    exact ⟨_, _, rfl, rfl, congrArg _ (Calendar.dated_eq_false_iff.1 houtside),
      Calendar.dated_iff.1 hstart, Calendar.dated_iff.1 hturn, hlt, hleaving, hreturning⟩

end Answers

/-- Where the fallback is an order, what keeps the calendar family from being transitive on three
versions is a detour that leads from the last one back, or another detour with the first version after
the last one under the fallback. On a set of versions the family is a total preorder exactly if no three
of them make a detour. -/
theorem calendar_totalPreorderOn_iff (hfallback : TotalPreorderOn fallback.compare versions)
    (hread : ∀ v, versions v → Answers (Calendar.parts v)) :
    (∀ a b c, versions a → versions b → versions c →
      (calendar fallback).NotAfter a b → (calendar fallback).NotAfter b c →
      ((calendar fallback).NotAfter a c ↔
        ¬(Calendar.Detour fallback c a b ∨
          (Calendar.Detour fallback a b c ∨ Calendar.Detour fallback b c a) ∧
            ¬fallback.NotAfter a c))) ∧
    (TotalPreorderOn (calendar fallback).compare versions ↔
      ∀ u v w, versions u → versions v → versions w → ¬Calendar.Detour fallback u v w) := by
  obtain ⟨answer, hanswer, horder⟩ := hfallback
  have hdates := Calendar.signPreorderOn_compareDates fun v => versions v ∧ Calendar.dated v = true
  have hcompare : ∀ v w, versions v → versions w → (calendar fallback).compare v w = .ok _ :=
    fun v w => calendar_compare_eq hanswer hread
  constructor
  · intro a b c ha hb hc
    rw [notAfter_iff hcompare ha hb, notAfter_iff hcompare hb hc, notAfter_iff hcompare ha hc,
      calendar_detour_iff hanswer hread ha hb hc, calendar_detour_iff hanswer hread hb hc ha,
      calendar_detour_iff hanswer hread hc ha hb, notAfter_iff hanswer ha hc, Int.not_le]
    exact compareWhere_trans_iff hdates horder ha hb hc
  · rw [totalPreorderOn_iff hcompare, signPreorderOn_compareWhere_iff hdates horder]
    constructor
    · intro hnone u v w hu hv hw hdetour
      exact hnone u v w hu hv hw ((calendar_detour_iff hanswer hread hu hv hw).1 hdetour)
    · intro hnone u v w hu hv hw hdetour
      exact hnone u v w hu hv hw ((calendar_detour_iff hanswer hread hu hv hw).2 hdetour)

/-- A version without calendar parts before two that have some and that the fallback alone would put the
other way round. -/
theorem calendar_totalPreorderOn_iff_nightly :
    TotalPreorderOn semver.compare
        (· ∈ [.ofString "nightly", .ofString "2023.12-rc", .ofString "v2024.1"]) ∧
      TotalPreorderOn (calendar semver).compare
        (· ∈ [.ofString "nightly", .ofString "2023.12-rc", .ofString "v2024.1"]) ∧
      (calendar semver).NotAfter (.ofString "2023.12-rc") (.ofString "v2024.1") := by
  have hfallback : TotalPreorderOn semver.compare
      (· ∈ [.ofString "nightly", .ofString "2023.12-rc", .ofString "v2024.1"]) :=
    (totalPreorderOn_iff fun _ _ _ _ => rfl).2 (Semver.signPreorderOn_compare.mono _ fun _ _ => trivial)
  have hnone : Calendar.parts (.ofString "nightly") = .ok [] := by rfl
  have hfirst : Calendar.parts (.ofString "2023.12-rc") = .ok [2023, 12] := by rfl
  have hsecond : Calendar.parts (.ofString "v2024.1") = .ok [2024, 1] := by rfl
  have hread : ∀ v ∈ [.ofString "nightly", .ofString "2023.12-rc", .ofString "v2024.1"],
      Answers (Calendar.parts v) := by
    simp only [List.forall_mem_cons, List.not_mem_nil, false_implies, implies_true, and_true]
    exact ⟨⟨_, hnone⟩, ⟨_, hfirst⟩, ⟨_, hsecond⟩⟩
  refine ⟨hfallback, (calendar_totalPreorderOn_iff hfallback hread).2.2 ?_, ⟨-1, by rfl, by decide⟩⟩
  rintro u v w - hv hw ⟨earlier, later, -, hlater, hend, -, hne, -, ⟨r, hr, hle⟩, -⟩
  -- The way back leads over the one version without parts, which is before the two others.
  obtain rfl : w = .ofString "nightly" := by
    simp only [List.mem_cons, List.not_mem_nil, or_false] at hw
    rcases hw with rfl | rfl | rfl
    · rfl
    · cases hfirst.symm.trans hend
    · cases hsecond.symm.trans hend
  have hafter : semver.compare v (.ofString "nightly") = .ok 1 := by
    simp only [List.mem_cons, List.not_mem_nil, or_false] at hv
    rcases hv with rfl | rfl | rfl
    · cases hnone.symm.trans hlater
      exact absurd rfl hne
    · rfl
    · rfl
  cases hafter.symm.trans hr
  exact absurd hle (by decide)

/-- The calendar family need not be an order where its fallback is one: a version with the later number
may come first by its qualifier, and a version without a number may stand between the two. -/
theorem not_calendar_trans :
    ¬∀ fallback : Comparator, TotalPreorderOn fallback.compare (fun _ => True) → ∀ a b c : Version,
      Answers (Calendar.parts a) → Answers (Calendar.parts b) → Answers (Calendar.parts c) →
      (calendar fallback).NotAfter a b → (calendar fallback).NotAfter b c →
      (calendar fallback).NotAfter a c := by
  intro h
  have hfallback : TotalPreorderOn semver.compare fun _ => True :=
    (totalPreorderOn_iff fun _ _ _ _ => rfl).2 Semver.signPreorderOn_compare
  have hab : (calendar semver).compare (.ofString "a2") (.ofString "b") = .ok (-1) := by rfl
  have hbc : (calendar semver).compare (.ofString "b") (.ofString "b1") = .ok (-1) := by rfl
  have hac : (calendar semver).compare (.ofString "a2") (.ofString "b1") = .ok 1 := by rfl
  obtain ⟨r, hr, hle⟩ := h semver hfallback (.ofString "a2") (.ofString "b") (.ofString "b1")
    ⟨[2], by rfl⟩ ⟨[], by rfl⟩ ⟨[1], by rfl⟩ ⟨_, hab, by decide⟩ ⟨_, hbc, by decide⟩
  rw [hac] at hr
  obtain rfl := Except.ok.inj hr
  exact absurd hle (by decide)

end Comparator

end VersionOrder
