import VersionOrder.Proofs.BuildOrder

/-!
# When a comparison answers

The orders of Maven and of semantic versioning always answer: a number with too many digits to be
read counts as zero in them. Calendar parts and build parts are read without such a substitute, so a
digit run past the limit leaves a comparison without an answer wherever it is reached. The main
statement says for each built-in scheme exactly which versions that concerns.

## Main definitions

- `Answers`: a computation that ends in a value
- `Calendar.Readable`: the versions that have calendar parts, or certainly have none
-/

namespace VersionOrder

/-- A computation that ends in a value. -/
def Answers {α : Type} (result : Except Fault α) : Prop :=
  ∃ value, result = .ok value

section Answers

variable {α β γ : Type}

theorem answers_pure (value : α) : Answers (pure value) :=
  ⟨value, rfl⟩

theorem not_answers_error (fault : Fault) : ¬Answers (.error fault : Except Fault α) := by
  rintro ⟨value, h⟩
  cases h

/-- Two computations in a row end in a value if both do. -/
theorem answers_bind_iff {first : Except Fault α} {next : α → Except Fault β} :
    Answers (first >>= next) ↔ ∃ value, first = .ok value ∧ Answers (next value) := by
  cases first with
  | error fault =>
    constructor
    · intro h
      exact absurd h (not_answers_error fault)
    · rintro ⟨value, h, _⟩
      cases h
  | ok value =>
    constructor
    · intro h
      exact ⟨value, rfl, h⟩
    · rintro ⟨other, h, hnext⟩
      cases h
      exact hnext

/-- A value that is only changed in the end is there all the same. -/
theorem answers_map_iff {first : Except Fault α} {f : α → β} :
    Answers (do return f (← first)) ↔ Answers first := by
  rw [answers_bind_iff]
  constructor
  · rintro ⟨value, h, _⟩
    exact ⟨value, h⟩
  · rintro ⟨value, h⟩
    exact ⟨value, h, answers_pure _⟩

/-- Two computations whose values are only combined in the end both have to end in one. -/
theorem answers_both_iff {first : Except Fault α} {second : Except Fault β}
    {combine : α → β → Except Fault γ} (h : ∀ a b, Answers (combine a b)) :
    Answers (do let a ← first; let b ← second; combine a b) ↔ Answers first ∧ Answers second := by
  rw [answers_bind_iff]
  constructor
  · rintro ⟨a, hfirst, hrest⟩
    obtain ⟨b, hsecond, _⟩ := answers_bind_iff.1 hrest
    exact ⟨⟨a, hfirst⟩, ⟨b, hsecond⟩⟩
  · rintro ⟨⟨a, hfirst⟩, ⟨b, hsecond⟩⟩
    exact ⟨a, hfirst, answers_bind_iff.2 ⟨b, hsecond, h a b⟩⟩

/-- A list is read exactly if each of its members is. -/
theorem answers_mapM_iff {f : α → Except Fault β} {items : List α} :
    Answers (items.mapM f) ↔ ∀ item ∈ items, Answers (f item) := by
  induction items with
  | nil => exact iff_of_true (answers_pure _) (by simp)
  | cons item items ih =>
    rw [List.mapM_cons, answers_both_iff fun _ _ => answers_pure _, ih, List.forall_mem_cons]

end Answers

theorem readNumber_eq_ok_iff {digits : Text} {n : Nat} :
    readNumber digits = .ok n ↔
      digits.length ≤ Numeral.digitLimit ∧ Numeral.value digits = n := by
  unfold readNumber Numeral.read?
  by_cases h : digits.length ≤ Numeral.digitLimit
  · simp [h]
  · simp [h]

namespace Calendar

/-- A digit run that can be a part of a date. -/
def Fits (run : Text) : Prop :=
  run.length ≤ Numeral.digitLimit ∧ Numeral.value run ≤ partLimit

/-- The first digit run that does not fit, if there is one, is too large rather than too long. -/
def ReadableRuns (runs : List Text) : Prop :=
  ∀ before run after, runs = before ++ run :: after → (∀ r ∈ before, Fits r) →
    run.length ≤ Numeral.digitLimit

/-- No digit run that counts for the calendar parts of a version is too long to be read. -/
def Readable (v : Version) : Prop :=
  ReadableRuns ((digitRuns v).take maxParts)

theorem readableRuns_nil : ReadableRuns [] := by
  intro before run after h
  simp at h

theorem readableRuns_cons {run : Text} {rest : List Text} :
    ReadableRuns (run :: rest) ↔
      run.length ≤ Numeral.digitLimit ∧ (Numeral.value run ≤ partLimit → ReadableRuns rest) := by
  constructor
  · intro h
    have hlength : run.length ≤ Numeral.digitLimit := h [] run rest rfl (by simp)
    -- Where the first run fits, a prefix of the rest that fits is one of all runs, too.
    refine ⟨hlength, fun hvalue before other after hrest hfits => ?_⟩
    refine h (run :: before) other after (by rw [hrest]; rfl) ?_
    exact List.forall_mem_cons.2 ⟨⟨hlength, hvalue⟩, hfits⟩
  · rintro ⟨hlength, hrest⟩ before other after hruns hfits
    cases before with
    | nil =>
      cases hruns
      exact hlength
    | cons first before =>
      cases hruns
      have hfirst := List.forall_mem_cons.1 hfits
      exact hrest hfirst.1.2 before other after rfl hfirst.2

theorem readAll_answers_iff {runs : List Text} : Answers (readAll runs) ↔ ReadableRuns runs := by
  induction runs with
  | nil => exact iff_of_true (answers_pure _) readableRuns_nil
  | cons run rest ih =>
    rw [readableRuns_cons, readAll, answers_bind_iff, ← ih]
    simp only [readNumber_eq_ok_iff]
    by_cases hlarge : partLimit < Numeral.value run
    · -- The rest is not looked at.
      have hvalue : ¬Numeral.value run ≤ partLimit := Nat.not_le.2 hlarge
      constructor
      · rintro ⟨n, ⟨hlength, _⟩, _⟩
        exact ⟨hlength, fun h => absurd h hvalue⟩
      · rintro ⟨hlength, _⟩
        refine ⟨_, ⟨hlength, rfl⟩, ?_⟩
        rw [if_pos hlarge]
        exact answers_pure _
    · have hvalue : Numeral.value run ≤ partLimit := Nat.not_lt.1 hlarge
      constructor
      · rintro ⟨n, ⟨hlength, rfl⟩, hrest⟩
        rw [if_neg hlarge] at hrest
        exact ⟨hlength, fun _ => answers_map_iff.1 hrest⟩
      · rintro ⟨hlength, hrest⟩
        refine ⟨_, ⟨hlength, rfl⟩, ?_⟩
        rw [if_neg hlarge]
        exact answers_map_iff.2 (hrest hvalue)

theorem parts_answers_iff {v : Version} : Answers (parts v) ↔ Readable v :=
  answers_map_iff.trans readAll_answers_iff

/-- A version that is all digits has one digit run. -/
theorem digitRuns_of_digits {digits : Text} (hne : digits ≠ [])
    (hdigits : ∀ c ∈ digits, c.isDigit = true) : digitRuns ⟨digits⟩ = [digits] := by
  have htrim : Text.trim digits = digits :=
    Text.trim_eq_self fun c hc => Text.isBlank_of_isDigit (hdigits c hc)
  have htokens : tokenize digits = [⟨.alphanumeric, digits⟩] := by
    have hkind : ∀ c ∈ digits, TokenKind.ofChar c = .alphanumeric := by
      intro c hc
      simp [TokenKind.ofChar, Char.isAlphanum, hdigits c hc]
    rw [tokenize, htrim, Text.runs_of_forall hne hkind]
    rfl
  have hruns := Text.runs_of_forall hne hdigits
  simp [digitRuns, Version.tokens, htokens, Token.isAlphanumeric, hruns]

/-- A version that is one digit run past the limit is not readable. -/
theorem not_readable_of_digits {digits : Text} (hdigits : ∀ c ∈ digits, c.isDigit = true)
    (hlong : Numeral.digitLimit < digits.length) : ¬Readable ⟨digits⟩ := by
  intro h
  have hne : digits ≠ [] := List.length_pos_iff.1 (by omega)
  have hruns : (digitRuns ⟨digits⟩).take maxParts = [digits] := by
    rw [digitRuns_of_digits hne hdigits]
    rfl
  have hlength := h [] digits [] hruns (by simp)
  omega

end Calendar

namespace BuildToken

theorem ofRun_answers_iff {run : Text} :
    Answers (ofRun run) ↔ (run.all Char.isDigit = true → run.length ≤ Numeral.digitLimit) := by
  unfold ofRun
  by_cases hdigits : run.all Char.isDigit = true
  · rw [if_pos hdigits, answers_map_iff]
    simp only [Answers, readNumber_eq_ok_iff, exists_and_left, exists_eq', and_true, hdigits,
      forall_const]
  · rw [if_neg hdigits]
    exact iff_of_true (answers_pure _) fun h => absurd h hdigits

/-- A build part is read exactly if it is readable. -/
theorem read_answers_iff {s : Text} : Answers (read s) ↔ ReadableBuild s := by
  rw [read, answers_mapM_iff]
  exact forall₂_congr fun run _ => ofRun_answers_iff

end BuildToken

/-- Build parts are read only if both are there. -/
theorem compareBuilds_answers_iff {left right : Text} :
    Answers (compareBuilds left right) ↔
      (left ≠ [] → right ≠ [] → ReadableBuild left ∧ ReadableBuild right) := by
  cases left with
  | nil =>
    have hmissing : Answers (compareBuilds [] right) := by cases right <;> exact answers_pure _
    exact iff_of_true hmissing fun h => absurd rfl h
  | cons c left =>
    cases right with
    | nil => exact iff_of_true (answers_pure _) fun _ h => absurd rfl h
    | cons d right =>
      rw [compareBuilds, answers_both_iff fun _ _ => answers_pure _, BuildToken.read_answers_iff,
        BuildToken.read_answers_iff]
      simp

/-- One of the build parts of two versions is missing, or both can be read. -/
def Layout.ReadableBuilds (layout : Layout) (v w : Version) : Prop :=
  (layout.split v.text).build ≠ [] → (layout.split w.text).build ≠ [] →
    ReadableBuild (layout.split v.text).build ∧ ReadableBuild (layout.split w.text).build

namespace Comparator

variable {v w : Version}

theorem calendar_answers_iff {fallback : Comparator}
    (h : ∀ v w, Answers (fallback.compare v w)) :
    Answers ((calendar fallback).compare v w) ↔ Calendar.Readable v ∧ Calendar.Readable w := by
  rw [compare, answers_both_iff, Calendar.parts_answers_iff, Calendar.parts_answers_iff]
  intro leftParts rightParts
  dsimp only
  split
  next => exact h v w
  next =>
    split
    next => exact h v w
    next => exact answers_pure _

/-- A layout that never lets build parts count leaves everything to the version parts. -/
theorem buildAware_compare_of_ignore {base : Comparator} {layout : Layout}
    (h : layout.effectiveComparison = .ignore) :
    (buildAware base layout).compare v w =
      base.compare ⟨(layout.split v.text).version⟩ ⟨(layout.split w.text).version⟩ := by
  rw [compare, h]
  cases base.compare ⟨(layout.split v.text).version⟩ ⟨(layout.split w.text).version⟩ with
  | error fault => rfl
  | ok r =>
    change (if r = 0 then Except.ok 0 else Except.ok r) = Except.ok r
    split
    next htie => rw [htie]
    next => rfl

/-- Where build parts count and the base answers, only build parts of versions that tie under the
base can leave a comparison without an answer. -/
theorem buildAware_answers_iff {base : Comparator} {layout : Layout} {r : Int}
    (h : layout.effectiveComparison = .tokenCompare)
    (hr : base.compare ⟨(layout.split v.text).version⟩ ⟨(layout.split w.text).version⟩ = .ok r) :
    Answers ((buildAware base layout).compare v w) ↔ (r = 0 → layout.ReadableBuilds v w) := by
  rw [compare, hr, h, Layout.ReadableBuilds, ← compareBuilds_answers_iff]
  change Answers (if r = 0 then _ else _) ↔ _
  split
  next htie => exact ⟨fun hanswers _ => hanswers, fun hanswers => hanswers htie⟩
  next htie => exact iff_of_true (answers_pure _) fun hzero => absurd hzero htie

end Comparator

namespace Scheme

/-- A built-in scheme that ignores build parts compares version parts by its family. -/
theorem compare_of_ignore {scheme : Scheme} {v w : Version}
    (haware : scheme.layout.needsBuildAwareness = true)
    (h : scheme.layout.effectiveComparison = .ignore) :
    scheme.compare v w = scheme.comparator.compare ⟨(scheme.layout.split v.text).version⟩
      ⟨(scheme.layout.split w.text).version⟩ := by
  rw [compare, precedence, if_pos haware, Comparator.buildAware_compare_of_ignore h]

/-- Four of the built-in schemes answer for all versions. The calendar scheme answers exactly for
versions with readable calendar parts; and the scheme that lets build parts decide ties answers
unless the versions tie without them and their build parts cannot be read. -/
theorem builtin_answers_iff (v w : Version) :
    (∀ scheme ∈ [mavenDefault, mavenBuildMetadataIgnored, semverDefault, semverBuildFirst],
      Answers (scheme.compare v w)) ∧
    (Answers (calverDefault.compare v w) ↔ Calendar.Readable v ∧ Calendar.Readable w) ∧
    (Answers (semverBuildOrdered.compare v w) ↔
      (semverDefault.compare v w = .ok 0 → Layout.buildAfterPlusOrdered.ReadableBuilds v w)) := by
  refine ⟨?_, ?_, ?_⟩
  · intro scheme hscheme
    simp only [List.mem_cons, List.not_mem_nil, or_false] at hscheme
    rcases hscheme with rfl | rfl | rfl | rfl
    · exact answers_pure _
    · rw [compare_of_ignore rfl rfl]
      exact answers_pure _
    · rw [compare_of_ignore rfl rfl]
      exact answers_pure _
    · rw [compare_of_ignore rfl rfl]
      exact answers_pure _
  · exact Comparator.calendar_answers_iff fun _ _ => answers_pure _
  · have hdefault : semverDefault.compare v w = .ok _ := compare_of_ignore rfl rfl
    rw [hdefault, Except.ok.injEq]
    exact Comparator.buildAware_answers_iff rfl rfl

/-- Two of the built-in schemes do not answer for all versions: under the calendar scheme, a number
with too many digits cannot be compared, not even with itself. -/
theorem not_builtin_answers :
    ¬∀ scheme ∈ builtins, ∀ v w, Answers (scheme.compare v w) := by
  intro h
  let long : Version := ⟨List.replicate (Numeral.digitLimit + 1) '1'⟩
  have hanswers : Answers (calverDefault.compare long long) := h _ (by simp [builtins]) _ _
  have hreadable : Calendar.Readable long :=
    ((Comparator.calendar_answers_iff fun _ _ => answers_pure _).1 hanswers).1
  refine Calendar.not_readable_of_digits ?_ ?_ hreadable
  · intro c hc
    rw [List.eq_of_mem_replicate hc]
    rfl
  · rw [List.length_replicate]
    exact Nat.lt_succ_self _

end Scheme

end VersionOrder
