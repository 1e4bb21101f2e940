import VersionOrder.Proofs.NumericVersions
import VersionOrder.Proofs.Scan

/-!
# Zeros behind a version

Zeros appended to a version text, a dot before each, are zeros behind its items. The families drop
those, so that no comparison with any other version changes, whatever the text ends in and whether or
not it has build metadata. The calendar family needs a digit in the text: then the zeros are parts that
would be filled up anyway, and no version gains its first calendar part from them.

## Main definitions

- `Text.dotZeros`: a dot and a zero, some times over
- `Comparator.AbsorbsZeros`: zeros behind a text change no comparison with it
-/

namespace VersionOrder

namespace Text

/-- A dot and a zero, some times over. -/
def dotZeros (n : Nat) : Text :=
  (List.replicate n ['.', '0']).flatten

theorem plus_notMem_dotZeros (n : Nat) : '+' ∉ dotZeros n := by
  intro h
  obtain ⟨piece, hpiece, hplus⟩ := List.mem_flatten.1 h
  rw [List.eq_of_mem_replicate hpiece] at hplus
  exact absurd hplus (by decide)

/-- Each appended zero is a digit run of its own. -/
theorem words_append_dotZeros (s : Text) (n : Nat) :
    words CharClass.ofChar .other (s ++ dotZeros n) =
      words CharClass.ofChar .other s ++ List.replicate n (.digit, ['0']) := by
  have hdot : IsGap ['.'] := ⟨by simp, List.forall_mem_singleton.2 rfl⟩
  induction n generalizing s with
  | zero => simp [dotZeros]
  | succ n ih =>
    have hcut : s ++ dotZeros (n + 1) = s ++ (['.'] ++ (['0'] ++ dotZeros n)) := by
      simp [dotZeros, List.replicate_succ]
    rw [hcut, words_append_gap s hdot, ih]
    rfl

theorem digitRuns_eq_words (s : Text) :
    digitRuns s = ((words CharClass.ofChar .other s).filter fun r => r.1 = .digit).map Prod.snd := by
  rw [digitRuns_eq_classRuns, classRuns, words, List.filter_filter]
  congr 1
  refine List.filter_congr fun r _ => ?_
  cases r.1 <;> rfl

theorem digitRuns_append_dotZeros (s : Text) (n : Nat) :
    digitRuns (s ++ dotZeros n) = digitRuns s ++ List.replicate n ['0'] := by
  simp [digitRuns_eq_words, words_append_dotZeros]

theorem digitRuns_ne_nil {s : Text} (h : ∃ c ∈ s, c.isDigit = true) : digitRuns s ≠ [] := by
  obtain ⟨c, hc, hdigit⟩ := h
  rw [← flatten_runs Char.isDigit s] at hc
  obtain ⟨run, hrun, hmem⟩ := List.mem_flatten.1 hc
  obtain ⟨r, hr, rfl⟩ := List.mem_map.1 hrun
  have hkey : r.1 = true := ((forall_mem_runs _ _ r hr).2 c hmem).symm.trans hdigit
  exact List.ne_nil_of_mem (List.mem_map_of_mem (List.mem_filter.2 ⟨hr, hkey⟩))

end Text

namespace Item

theorem trimEnd_append_zeros (items : List Item) (n : Nat) :
    trimEnd (items ++ List.replicate n (.numeric 0)) = trimEnd items := by
  have hzeros : ∀ item ∈ List.replicate n (numeric 0), isNegligible item = true := by
    intro item hitem
    rw [List.eq_of_mem_replicate hitem]
    rfl
  rw [trimEnd, List.reverse_append,
    List.dropWhile_append_of_pos fun item h => hzeros item (List.mem_reverse.1 h), ← trimEnd]

theorem trimEnd_words_append_dotZeros (s : Text) (n : Nat) :
    trimEnd ((Text.words CharClass.ofChar .other (s ++ Text.dotZeros n)).map ofClassRun) =
      trimEnd ((Text.words CharClass.ofChar .other s).map ofClassRun) := by
  have hzero : ofClassRun (.digit, ['0']) = .numeric 0 := rfl
  rw [Text.words_append_dotZeros, List.map_append, List.map_replicate, hzero, trimEnd_append_zeros]

theorem ofTokens_append_dotZeros (leaveOutBuild : Bool) (s : Text) (n : Nat) :
    ofTokens leaveOutBuild (tokenize (s ++ Text.dotZeros n)) =
      ofTokens leaveOutBuild (tokenize s) := by
  cases leaveOutBuild with
  | false => rw [ofTokens_false_eq, ofTokens_false_eq, trimEnd_words_append_dotZeros]
  | true =>
    rw [ofTokens_true_eq, ofTokens_true_eq]
    by_cases hs : '+' ∈ s
    · -- The zeros belong to the build metadata.
      rw [Text.takeWhile_append_of_mem hs]
    · rw [Text.takeWhile_append_of_notMem hs, Text.takeWhile_ne_eq_self hs,
        Text.takeWhile_ne_eq_self (Text.plus_notMem_dotZeros n), trimEnd_words_append_dotZeros]

end Item

namespace Calendar

theorem readAll_zeros (n : Nat) :
    readAll (List.replicate n ['0']) = .ok (some (List.replicate n 0)) := by
  induction n with
  | zero => rfl
  | succ n ih =>
    rw [List.replicate_succ, readAll, ih]
    rfl

theorem readAll_append_zeros (runs : List Text) (n : Nat) :
    readAll (runs ++ List.replicate n ['0']) =
      (readAll runs).map (Option.map (· ++ List.replicate n 0)) := by
  induction runs with
  | nil => exact readAll_zeros n
  | cons run rest ih =>
    rw [List.cons_append, readAll, readAll]
    cases readNumber run with
    | error fault => rfl
    | ok value =>
      by_cases hlarge : partLimit < value
      · simp [hlarge, bind, Except.bind, pure, Except.pure, Except.map]
      · simp only [hlarge, ih, bind, Except.bind, if_false]
        cases readAll rest with
        | error fault => rfl
        | ok numbers => cases numbers <;> rfl

theorem ne_nil_of_readAll {runs : List Text} {numbers : List Nat} (hruns : runs ≠ [])
    (h : readAll runs = .ok (some numbers)) : numbers ≠ [] := by
  rintro rfl
  obtain ⟨run, rest, rfl⟩ := List.exists_cons_of_ne_nil hruns
  rw [readAll] at h
  cases hread : readNumber run with
  | error fault =>
    rw [hread] at h
    cases h
  | ok value =>
    rw [hread] at h
    by_cases hlarge : partLimit < value
    · simp [hlarge, bind, Except.bind, pure, Except.pure] at h
    · cases hrest : readAll rest with
      | error fault => simp [hlarge, hrest, bind, Except.bind] at h
      | ok more => cases more <;> simp [hlarge, hrest, bind, Except.bind, pure, Except.pure] at h

/-- Zeros behind a text with a digit are further parts, as far as there is room for them, or there
are no parts in either case. -/
theorem parts_append_dotZeros {s : Text} (hdigit : ∃ c ∈ s, c.isDigit = true) (n : Nat) :
    ∃ zeros, parts ⟨s ++ Text.dotZeros n⟩ =
      (parts ⟨s⟩).map fun found => if found = [] then [] else found ++ List.replicate zeros 0 := by
  refine ⟨min (maxParts - (Text.digitRuns s).length) n, ?_⟩
  have hruns : (Text.digitRuns s).take maxParts ≠ [] := by
    rw [ne_eq, List.take_eq_nil_iff, not_or]
    exact ⟨by decide, Text.digitRuns_ne_nil hdigit⟩
  simp only [parts, digitRuns_eq, Text.digitRuns_append_dotZeros, List.take_append,
    List.take_replicate, readAll_append_zeros]
  cases hread : readAll ((Text.digitRuns s).take maxParts) with
  | error fault => rfl
  | ok numbers? =>
    cases numbers? with
    | none => rfl
    | some numbers =>
      have hne := ne_nil_of_readAll hruns hread
      simp [hne, bind, Except.bind, pure, Except.pure, Except.map]

end Calendar

namespace Comparator

/-- Zeros behind a text change no comparison with it. -/
def AbsorbsZeros (comparator : Comparator) (s : Text) : Prop :=
  ∀ n w, comparator.compare ⟨s ++ Text.dotZeros n⟩ w = comparator.compare ⟨s⟩ w ∧
    comparator.compare w ⟨s ++ Text.dotZeros n⟩ = comparator.compare w ⟨s⟩

theorem absorbsZeros_maven (s : Text) : maven.AbsorbsZeros s := by
  intro n w
  have hitems : Maven.items ⟨s ++ Text.dotZeros n⟩ = Maven.items ⟨s⟩ :=
    Item.ofTokens_append_dotZeros false s n
  constructor
  · simp only [compare, Maven.compare, hitems]
  · simp only [compare, Maven.compare, hitems]

theorem absorbsZeros_semver (s : Text) : semver.AbsorbsZeros s := by
  intro n w
  have hitems : Semver.items ⟨s ++ Text.dotZeros n⟩ = Semver.items ⟨s⟩ :=
    Item.ofTokens_append_dotZeros true s n
  constructor
  · simp only [compare, Semver.compare, hitems]
  · simp only [compare, Semver.compare, hitems]

/-- Calendar versions with a digit absorb zeros if the fallback does. -/
theorem absorbsZeros_calendar {fallback : Comparator} {s : Text}
    (hfallback : fallback.AbsorbsZeros s) (hdigit : ∃ c ∈ s, c.isDigit = true) :
    (calendar fallback).AbsorbsZeros s := by
  intro n w
  obtain ⟨hleft, hright⟩ := hfallback n w
  obtain ⟨zeros, hparts⟩ := Calendar.parts_append_dotZeros hdigit n
  have hcompare : ∀ found other : List Nat,
      Calendar.compareParts (found ++ List.replicate zeros 0) other =
          Calendar.compareParts found other ∧
        Calendar.compareParts other (found ++ List.replicate zeros 0) =
          Calendar.compareParts other found := by
    intro found other
    have hfirst := Calendar.compareParts_append_zeros found other zeros 0
    have hsecond := Calendar.compareParts_append_zeros other found 0 zeros
    rw [List.replicate_zero, List.append_nil] at hfirst hsecond
    exact ⟨hfirst, hsecond⟩
  simp only [compare, hleft, hright, hparts]
  cases Calendar.parts ⟨s⟩ with
  | error fault => exact ⟨rfl, rfl⟩
  | ok found =>
    cases Calendar.parts w with
    | error fault => exact ⟨rfl, rfl⟩
    | ok other =>
      by_cases hnone : found = []
      · simp [hnone, Except.map, bind, Except.bind]
      · simp [hnone, hcompare, Except.map, bind, Except.bind]

/-- Zeros appended to a version do not change how it compares with any other one: not in the families
of Maven and of semantic versioning, and in the calendar family not if the version has a digit. -/
theorem families_absorbZeros (s : Text) :
    maven.AbsorbsZeros s ∧ semver.AbsorbsZeros s ∧
      ((∃ c ∈ s, c.isDigit = true) → calver.AbsorbsZeros s) :=
  ⟨absorbsZeros_maven s, absorbsZeros_semver s, absorbsZeros_calendar (absorbsZeros_maven s)⟩

/-- Zeros behind a blank, where the calendar parts tie and the qualifiers decide. -/
theorem families_absorbZeros_candidate :
    (∃ c ∈ "2024.1-rc ".toList, c.isDigit = true) ∧
      calver.compare ⟨"2024.1-rc ".toList ++ Text.dotZeros 2⟩ (Version.ofString "2024.1.0-beta.3") =
        .ok (-1) := by
  have hdigit : ∃ c ∈ "2024.1-rc ".toList, c.isDigit = true := ⟨'2', by simp, by decide⟩
  obtain ⟨-, -, hcalver⟩ := families_absorbZeros "2024.1-rc ".toList
  obtain ⟨hleft, -⟩ := hcalver hdigit 2 (Version.ofString "2024.1.0-beta.3")
  exact ⟨hdigit, hleft.trans (by rfl)⟩

/-- Without a digit, the first zero is a calendar part where there was none. -/
example : calver.compare (Version.ofString "c") (Version.ofString "b1") = .ok 1 ∧
    calver.compare (Version.ofString "c.0") (Version.ofString "b1") = .ok (-1) :=
  ⟨by rfl, by rfl⟩

end Comparator

end VersionOrder
