import Mathlib.Data.List.Infix
import VersionOrder.Proofs.BuildMetadata
import VersionOrder.Proofs.Division

/-!
# Blanks around a version

Every text has one trimmed form, whatever blanks are put around it. The families read trimmed texts
only, and blanks around a text become blanks around its parts, so they leave precedence alone. The
one exception is a build part that decides ties and consists of blanks: as it stands it is a build
part, and trimmed it is missing.

## Main definitions

- `Text.Trimmed`: the texts without a blank at either end
- `Comparator.IgnoresBlanks`: a comparator that reads trimmed texts only
-/

namespace VersionOrder

namespace Text

variable {s t before after : Text}

/-- A text with no blank at either end. -/
def Trimmed (s : Text) : Prop :=
  (∀ c ∈ s.head?, isBlank c = false) ∧ ∀ c ∈ s.getLast?, isBlank c = false

theorem trimmed_trim (s : Text) : Trimmed (trim s) := by
  constructor
  · intro c hc
    obtain ⟨back, hback⟩ := List.rdropWhile_prefix isBlank (s.dropWhile isBlank)
    have hhead : c ∈ (s.dropWhile isBlank).head? := by
      rw [← hback]
      exact List.mem_head?_append_of_mem_head? hc
    have hfirst := List.head?_dropWhile_not isBlank s
    rw [hhead] at hfirst
    exact hfirst
  · intro c hc
    obtain ⟨hne, rfl⟩ := List.mem_getLast?_eq_getLast hc
    exact Bool.eq_false_iff.2 (List.rdropWhile_last_not isBlank (s.dropWhile isBlank) hne)

/-- Trimming takes away exactly the blanks that are put around a trimmed text. -/
theorem trim_of_trimmed (hs : Trimmed s) (hbefore : ∀ c ∈ before, isBlank c = true)
    (hafter : ∀ c ∈ after, isBlank c = true) : trim (before ++ (s ++ after)) = s := by
  rw [trim, trimLeft, List.dropWhile_append_of_pos hbefore]
  cases s with
  | nil =>
    rw [List.nil_append, List.dropWhile_eq_nil_iff.2 hafter]
    rfl
  | cons c rest =>
    have hc : isBlank c = false := hs.1 c rfl
    have hlast : List.rdropWhile isBlank (c :: rest) = c :: rest := by
      rw [List.rdropWhile_eq_self_iff]
      intro hne
      simp [hs.2 _ (List.getLast_mem_getLast? hne)]
    rw [List.cons_append, List.dropWhile_cons_of_neg (by simp [hc]), trimRight, ← List.cons_append,
      List.reverse_append, List.dropWhile_append_of_pos (by simpa using hafter)]
    exact hlast

theorem trim_eq_self_iff : trim s = s ↔ Trimmed s := by
  constructor
  · intro h
    rw [← h]
    exact trimmed_trim s
  · intro h
    simpa using trim_of_trimmed h (List.forall_mem_nil _) (List.forall_mem_nil _)

@[simp]
theorem trim_trim (s : Text) : trim (trim s) = trim s :=
  trim_eq_self_iff.2 (trimmed_trim s)

theorem trim_append_append (hbefore : ∀ c ∈ before, isBlank c = true)
    (hafter : ∀ c ∈ after, isBlank c = true) : trim (before ++ (s ++ after)) = trim s := by
  obtain ⟨left, right, hs, hleft, hright⟩ := exists_eq_trim s
  have hcore := trimmed_trim s
  generalize trim s = core at hs hcore ⊢
  subst hs
  -- The blanks around the text and those it had itself are blanks around the same trimmed text.
  have hleft' : ∀ c ∈ before ++ left, isBlank c = true := by
    intro c hc
    exact (List.mem_append.1 hc).elim (hbefore c) (hleft c)
  have hright' : ∀ c ∈ right ++ after, isBlank c = true := by
    intro c hc
    exact (List.mem_append.1 hc).elim (hright c) (hafter c)
  simpa only [List.append_assoc] using trim_of_trimmed hcore hleft' hright'

theorem trim_append_left (h : ∀ c ∈ before, isBlank c = true) : trim (before ++ s) = trim s := by
  simpa only [List.append_nil] using trim_append_append h (List.forall_mem_nil _)

theorem trim_append_right (h : ∀ c ∈ after, isBlank c = true) : trim (s ++ after) = trim s := by
  exact trim_append_append (List.forall_mem_nil _) h

theorem trim_eq_nil_iff : trim s = [] ↔ allBlank s = true := by
  constructor
  · intro h
    obtain ⟨left, right, hs, hleft, hright⟩ := exists_eq_trim s
    rw [h, List.nil_append] at hs
    rw [hs, allBlank, List.all_append, List.all_eq_true.2 hleft, List.all_eq_true.2 hright]
    rfl
  · intro h
    simpa using trim_append_left (s := []) (List.all_eq_true.1 h)

/-- Blanks are separators, so they add no words. -/
theorem words_trim {κ : Type} [DecidableEq κ] {key : Char → κ} {separator : κ}
    (h : ∀ c, isBlank c = true → key c = separator) (s : Text) :
    words key separator (trim s) = words key separator s := by
  obtain ⟨left, right, hs, hleft, hright⟩ := exists_eq_trim s
  generalize trim s = core at hs ⊢
  subst hs
  rw [words_append_left fun c hc => h c (hleft c hc),
    words_append_right fun c hc => h c (hright c hc)]

theorem eq_nil_of_allBlank (hs : Trimmed (t ++ s)) (hblank : allBlank s = true) : s = [] := by
  cases hlast : s.getLast? with
  | none => exact List.getLast?_eq_none_iff.1 hlast
  | some c =>
    have hc : isBlank c = true := List.all_eq_true.1 hblank c (List.mem_of_mem_getLast? hlast)
    have hne : isBlank c = false := hs.2 c (by simp [List.getLast?_append, hlast])
    simp [hc] at hne

end Text

theorem tokens_of_trim_eq {s t : Text} (h : Text.trim s = Text.trim t) :
    Version.tokens ⟨s⟩ = Version.tokens ⟨t⟩ := by
  simp only [Version.tokens, tokenize, h]

namespace Layout

variable {layout : Layout} {p : Char}

theorem split_of_notMem (hdelimiter : layout.delimiter = [p]) {s : Text} (h : p ∉ s) :
    layout.split s = ⟨s, []⟩ := by
  refine split_of_not_occurs fun hoccurs => h ?_
  rwa [hdelimiter, List.singleton_infix_iff] at hoccurs

theorem split_append_cons (hdelimiter : layout.delimiter = [p]) {first : Text} (hp : p ∉ first)
    (second : Text) : layout.split (first ++ p :: second) =
      if layout.versionFirst then ⟨first, second⟩ else ⟨second, first⟩ := by
  rw [split, hdelimiter, if_neg (by simp), Text.cutAt?_append_cons hp]

/-- Blanks around a text are blanks around its parts. -/
theorem trim_split (hdelimiter : layout.delimiter = [p]) (hp : Text.isBlank p = false) (s : Text) :
    Text.trim (layout.split (Text.trim s)).version = Text.trim (layout.split s).version ∧
      Text.trim (layout.split (Text.trim s)).build = Text.trim (layout.split s).build := by
  obtain ⟨before, after, hs, hbefore, hafter⟩ := Text.exists_eq_trim s
  have hcore := Text.trim_trim s
  generalize Text.trim s = core at hs hcore ⊢
  subst hs
  have hnotBefore : p ∉ before := fun h => by simp [hbefore p h] at hp
  have hnotAfter : p ∉ after := fun h => by simp [hafter p h] at hp
  -- The delimiter is no blank, so the first one stands in the trimmed text if there is one.
  by_cases h : p ∈ core
  · obtain ⟨first, second, rfl, hfirst⟩ := List.eq_append_cons_of_mem h
    have hall : before ++ ((first ++ p :: second) ++ after) =
        (before ++ first) ++ p :: (second ++ after) := by simp
    rw [hall, split_append_cons hdelimiter hfirst, split_append_cons hdelimiter (by simp [*])]
    cases layout.versionFirst <;> simp [Text.trim_append_left hbefore, Text.trim_append_right hafter]
  · have hall : p ∉ before ++ (core ++ after) := by simp [h, hnotBefore, hnotAfter]
    rw [split_of_notMem hdelimiter h, split_of_notMem hdelimiter hall]
    exact ⟨(Text.trim_append_append hbefore hafter).symm, rfl⟩

/-- Trimming a text leaves a build part behind the version part that is missing exactly if nothing
but blanks stood there. -/
theorem build_trim_eq_nil_iff (hdelimiter : layout.delimiter = [p]) (hp : Text.isBlank p = false)
    (hfirst : layout.versionFirst = true) (s : Text) :
    (layout.split (Text.trim s)).build = [] ↔ Text.allBlank (layout.split s).build = true := by
  have hparts := (trim_split hdelimiter hp s).2
  rw [← Text.trim_eq_nil_iff, ← hparts]
  constructor
  · intro h
    rw [h, Text.trim_nil]
  · intro h
    by_cases hmem : p ∈ Text.trim s
    · obtain ⟨first, second, hs, hnot⟩ := List.eq_append_cons_of_mem hmem
      have htrimmed : Text.Trimmed ((first ++ [p]) ++ second) := by
        simpa [← hs] using Text.trimmed_trim s
      rw [hs, split_append_cons hdelimiter hnot, if_pos hfirst] at h ⊢
      exact Text.eq_nil_of_allBlank htrimmed (Text.trim_eq_nil_iff.1 h)
    · rw [split_of_notMem hdelimiter hmem]

/-- A build part that is there and consists of blanks. -/
def BlankBuild (layout : Layout) (s : Text) : Prop :=
  (layout.split s).build ≠ [] ∧ Text.allBlank (layout.split s).build = true

end Layout

section Builds

variable {build other : Text}

theorem BuildToken.runsOf_eq_words (s : Text) :
    runsOf s = (Text.words Char.isAlphanum false s).map Prod.snd := by
  simp [runsOf, Text.words]

theorem BuildToken.runsOf_trim (s : Text) : runsOf (Text.trim s) = runsOf s := by
  rw [runsOf_eq_words, Text.words_trim fun c => Text.isAlphanum_of_isBlank, ← runsOf_eq_words]

theorem BuildToken.runsOf_of_allBlank (h : Text.allBlank build = true) : runsOf build = [] := by
  rw [← runsOf_trim, Text.trim_eq_nil_iff.2 h]
  rfl

theorem compareBuilds_of_trim_eq (h : Text.trim build = Text.trim other) (hbuild : build ≠ [])
    (hother : other ≠ []) (right : Text) :
    compareBuilds build right = compareBuilds other right := by
  have hread : BuildToken.read build = BuildToken.read other := by
    rw [BuildToken.read, BuildToken.read, ← BuildToken.runsOf_trim build, h, BuildToken.runsOf_trim]
  cases build with
  | nil => exact absurd rfl hbuild
  | cons c build =>
    cases other with
    | nil => exact absurd rfl hother
    | cons d other => cases right <;> simp only [compareBuilds, hread]

/-- Blanks are a build part without tokens. They compare as a missing one does only with a build part
that has tokens. -/
theorem compareBuilds_blank_eq_iff (hbuild : build ≠ []) (hblank : Text.allBlank build = true)
    (right : Text) : compareBuilds build right = compareBuilds [] right ↔
      BuildToken.runsOf right ≠ [] ∧ ReadableBuild right := by
  cases build with
  | nil => exact absurd rfl hbuild
  | cons c build =>
    have hread : BuildToken.read (c :: build) = .ok [] := by
      rw [BuildToken.read, BuildToken.runsOf_of_allBlank hblank]
      rfl
    cases right with
    | nil => simp [compareBuilds, BuildToken.runsOf]
    | cons d right =>
      by_cases hreadable : ReadableBuild (d :: right)
      · rw [compareBuilds, compareBuilds, hread, BuildToken.read_eq hreadable, BuildToken.tokens]
        cases BuildToken.runsOf (d :: right) with
        | nil => simp [BuildToken.compareAll, bind, Except.bind, pure, Except.pure]
        | cons run runs =>
          simp [BuildToken.compareAll, bind, Except.bind, pure, Except.pure, hreadable]
      · refine iff_of_false (fun heq => hreadable ?_) fun h => hreadable h.2
        have hanswers : Answers (compareBuilds (c :: build) (d :: right)) := ⟨-1, heq⟩
        exact (compareBuilds_answers_iff.1 hanswers (by simp) (by simp)).2

end Builds

namespace Comparator

variable {base fallback : Comparator} {layout : Layout} {p : Char}

/-- A comparator that reads no more of a left version than its trimmed text. -/
def IgnoresBlanks (comparator : Comparator) : Prop :=
  ∀ (s t : Text) (w : Version), Text.trim s = Text.trim t →
    comparator.compare ⟨s⟩ w = comparator.compare ⟨t⟩ w

theorem ignoresBlanks_maven : IgnoresBlanks maven := by
  intro s t w h
  simp only [compare, Maven.compare, Maven.items, tokens_of_trim_eq h]

theorem ignoresBlanks_semver : IgnoresBlanks semver := by
  intro s t w h
  simp only [compare, Semver.compare, Semver.items, tokens_of_trim_eq h]

theorem ignoresBlanks_calendar (hfallback : fallback.IgnoresBlanks) :
    IgnoresBlanks (calendar fallback) := by
  intro s t w h
  have hparts : Calendar.parts ⟨s⟩ = Calendar.parts ⟨t⟩ := by
    simp only [Calendar.parts, Calendar.digitRuns, tokens_of_trim_eq h]
  simp only [compare, hparts, hfallback s t w h]

theorem compare_version_trim (hbase : base.IgnoresBlanks) (hdelimiter : layout.delimiter = [p])
    (hp : Text.isBlank p = false) (s : Text) (w : Version) :
    base.compare ⟨(layout.split (Text.trim s)).version⟩ w =
      base.compare ⟨(layout.split s).version⟩ w :=
  hbase _ _ w (Layout.trim_split hdelimiter hp s).1

theorem ignoresBlanks_buildAware (hbase : base.IgnoresBlanks) (hdelimiter : layout.delimiter = [p])
    (hp : Text.isBlank p = false) (hpolicy : layout.effectiveComparison = .ignore) :
    IgnoresBlanks (buildAware base layout) := by
  intro s t w h
  rw [buildAware_compare_of_ignore hpolicy, buildAware_compare_of_ignore hpolicy,
    ← compare_version_trim hbase hdelimiter hp s, h, compare_version_trim hbase hdelimiter hp t]

/-- Where build parts decide ties, trimming a version changes its comparison exactly if it ties with
the other one and has a build part of blanks, while the other one has no tokens to compare. -/
theorem buildAware_compare_trim_iff (hbase : base.IgnoresBlanks)
    (hdelimiter : layout.delimiter = [p]) (hp : Text.isBlank p = false)
    (hfirst : layout.versionFirst = true) (hpolicy : layout.effectiveComparison = .tokenCompare)
    {s : Text} {w : Version} {r : Int}
    (hr : base.compare ⟨(layout.split s).version⟩ ⟨(layout.split w.text).version⟩ = .ok r) :
    (buildAware base layout).compare ⟨s⟩ w = (buildAware base layout).compare ⟨Text.trim s⟩ w ↔
      (r = 0 → layout.BlankBuild s → BuildToken.runsOf (layout.split w.text).build ≠ [] ∧
        ReadableBuild (layout.split w.text).build) := by
  have hbuilds : (buildAware base layout).compare ⟨s⟩ w =
        (buildAware base layout).compare ⟨Text.trim s⟩ w ↔
      (r = 0 → compareBuilds (layout.split s).build (layout.split w.text).build =
        compareBuilds (layout.split (Text.trim s)).build (layout.split w.text).build) := by
    simp only [compare, compare_version_trim hbase hdelimiter hp, hr, hpolicy]
    by_cases h : r = 0 <;> simp [h, bind, Except.bind]
  rw [hbuilds]
  refine imp_congr_right fun _ => ?_
  -- Trimming takes a build part of blanks away, and any other one keeps its tokens.
  by_cases hblank : Text.allBlank (layout.split s).build = true
  · rw [(Layout.build_trim_eq_nil_iff hdelimiter hp hfirst s).2 hblank]
    by_cases hmissing : (layout.split s).build = []
    · simp [hmissing, Layout.BlankBuild]
    · rw [compareBuilds_blank_eq_iff hmissing hblank]
      simp [Layout.BlankBuild, hmissing, hblank]
  · have hthere : (layout.split s).build ≠ [] := fun h => hblank (by simp [h, Text.allBlank])
    have htrimmed : (layout.split (Text.trim s)).build ≠ [] := fun h =>
      hblank ((Layout.build_trim_eq_nil_iff hdelimiter hp hfirst s).1 h)
    have heq := (Layout.trim_split hdelimiter hp s).2
    simp [compareBuilds_of_trim_eq heq.symm hthere htrimmed, Layout.BlankBuild, hblank]

end Comparator

namespace Scheme

/-- Five of the built-in schemes compare every text as they compare the version that it is parsed to.
The one that lets build parts decide ties does, too, unless the versions tie without them, the text
has a build part of blanks and the other version has no readable tokens in its build part. -/
theorem compare_parse_iff (t : Text) (w : Version) :
    (∀ scheme ∈ [mavenDefault, mavenBuildMetadataIgnored, semverDefault, semverBuildFirst,
        calverDefault], scheme.compare ⟨t⟩ w = scheme.compare (scheme.parse t) w) ∧
    (semverBuildOrdered.compare ⟨t⟩ w = semverBuildOrdered.compare (semverBuildOrdered.parse t) w ↔
      (semverDefault.compare ⟨t⟩ w = .ok 0 → semverBuildOrdered.layout.BlankBuild t →
        BuildToken.runsOf (semverBuildOrdered.layout.split w.text).build ≠ [] ∧
          ReadableBuild (semverBuildOrdered.layout.split w.text).build)) := by
  have hplus : Text.isBlank '+' = false := by decide
  have hmaven := Comparator.ignoresBlanks_maven
  have hsemver := Comparator.ignoresBlanks_semver
  constructor
  · intro scheme hscheme
    have hblanks : scheme.precedence.IgnoresBlanks := by
      simp only [List.mem_cons, List.not_mem_nil, or_false] at hscheme
      rcases hscheme with rfl | rfl | rfl | rfl | rfl
      · exact hmaven
      · exact Comparator.ignoresBlanks_buildAware hmaven rfl hplus rfl
      · exact Comparator.ignoresBlanks_buildAware hsemver rfl hplus rfl
      · exact Comparator.ignoresBlanks_buildAware hsemver rfl hplus rfl
      · exact Comparator.ignoresBlanks_calendar hmaven
    have hbuiltin : scheme ∈ builtins := by
      simp only [builtins, List.mem_cons, List.not_mem_nil, or_false] at hscheme ⊢
      tauto
    rw [parse_eq_trim (codec?_of_mem_builtins hbuiltin)]
    exact hblanks t (Text.trim t) w (Text.trim_trim t).symm
  · have hdefault : semverDefault.compare ⟨t⟩ w = .ok _ := compare_of_ignore rfl rfl
    rw [hdefault, Except.ok.injEq]
    exact Comparator.buildAware_compare_trim_iff hsemver rfl hplus rfl rfl rfl

/-- Blanks behind a plus sign are a build part where build parts decide ties, and the parsed version
has none. -/
theorem not_compare_parse : ¬∀ scheme ∈ builtins, ∀ (t : Text) (w : Version) (r r' : Int),
    scheme.compare ⟨t⟩ w = .ok r → scheme.compare (scheme.parse t) w = .ok r' → r = r' := by
  intro h
  have hone : (1 : Int) = 0 := h semverBuildOrdered (by simp [builtins]) "1+ ".toList
    (Version.ofString "1") 1 0 (by rfl) (by rfl)
  omega

end Scheme

end VersionOrder
