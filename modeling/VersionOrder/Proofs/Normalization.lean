import VersionOrder.Proofs.Trimming

/-!
# Normalizing twice

Normalizing trims a text, divides it and writes its parts in the style of the scheme. What is written
is read in the same way the second time, so it has to be trimmed and to divide where it was put
together. Both can fail: a version part that is written alone may end or begin with a blank, or begin
with a delimiter; and a build part that is folded into the qualifier section may bring a delimiter
with it. The main statement says for each built-in scheme exactly which texts settle.

## Main definitions

- `Scheme.Settles`: a text whose normalized form is normalized
-/

namespace VersionOrder

namespace Text

variable {s : Text}

theorem length_trim_lt (h : trim s ≠ s) : (trim s).length < s.length := by
  obtain ⟨left, right, hs, -, -⟩ := exists_eq_trim s
  have hlength := congrArg List.length hs
  simp only [List.length_append] at hlength
  refine Nat.lt_of_le_of_ne (by omega) fun heq => h ?_
  have hleft : left = [] := List.eq_nil_of_length_eq_zero (by omega)
  have hright : right = [] := List.eq_nil_of_length_eq_zero (by omega)
  simpa [hleft, hright] using hs.symm

theorem subset_trim (s : Text) : trim s ⊆ s := by
  obtain ⟨left, right, hs, -, -⟩ := exists_eq_trim s
  intro c hc
  rw [hs]
  exact List.mem_append_right left (List.mem_append_left right hc)

end Text

namespace Layout

variable {layout : Layout} {s : Text}

theorem join_split_eq_self_iff (hne : layout.delimiter ≠ []) :
    layout.join (layout.split s) = s ↔
      ((layout.split s).build = [] → ¬layout.delimiter <:+: s) := by
  by_cases hbuild : (layout.split s).build = []
  · rw [join_split_of_noBuild hbuild]
    constructor
    · intro h _ hoccurs
      exact Nat.ne_of_lt (length_version_lt hne hoccurs) (congrArg List.length h)
    · intro h
      rw [split_of_not_occurs (h hbuild)]
  · simp [join_split_of_build hbuild, hbuild]

theorem length_join_split_le (hne : layout.delimiter ≠ []) (s : Text) :
    (layout.join (layout.split s)).length ≤ s.length := by
  by_cases hself : layout.join (layout.split s) = s
  · rw [hself]
  · rw [join_split_eq_self_iff hne, not_forall] at hself
    obtain ⟨hbuild, hoccurs⟩ := hself
    rw [join_split_of_noBuild hbuild]
    exact Nat.le_of_lt (length_version_lt hne (not_not.1 hoccurs))

theorem split_of_begins (hne : layout.delimiter ≠ []) (h : layout.delimiter <+: s) :
    layout.split s = if layout.versionFirst then ⟨[], s.drop layout.delimiter.length⟩
      else ⟨s.drop layout.delimiter.length, []⟩ := by
  have hcut : Text.cutAt? layout.delimiter s = some ([], s.drop layout.delimiter.length) := by
    cases s with
    | nil => exact absurd (List.prefix_nil.1 h) hne
    | cons c rest => rw [Text.cutAt?, if_pos (List.isPrefixOf_iff_prefix.2 h)]
  rw [split, if_neg (by simpa using hne), hcut]

theorem build_eq_nil_iff (hne : layout.delimiter ≠ []) (hlast : layout.versionFirst = false)
    (h : layout.delimiter <:+: s) :
    (layout.split s).build = [] ↔ layout.delimiter <+: s := by
  constructor
  · intro hbuild
    obtain ⟨first, second, hs, -, hsplit⟩ := exists_split hne h
    have hfirst : first = [] := by simpa [hsplit, hlast] using hbuild
    exact ⟨second, by simpa [hfirst] using hs⟩
  · intro hbegins
    simp [split_of_begins hne hbegins, hlast]

/-- A version part that is written alone is read back whole if it is trimmed and does not begin where
the version part of a text begins that has its build part first. -/
theorem join_split_trim_eq_self_iff (hne : layout.delimiter ≠ []) {version : Text}
    (hversion : layout.versionFirst = true → ¬layout.delimiter <:+: version) :
    layout.join (layout.split (Text.trim version)) = version ↔
      Text.Trimmed version ∧ (layout.versionFirst = false → ¬layout.delimiter <+: version) := by
  rw [← Text.trim_eq_self_iff]
  by_cases htrim : Text.trim version = version
  · rw [htrim, join_split_eq_self_iff hne]
    cases hfirst : layout.versionFirst with
    | true => simp [hversion hfirst]
    | false =>
      by_cases hoccurs : layout.delimiter <:+: version
      · simp [build_eq_nil_iff hne hfirst hoccurs, hoccurs]
      · have hbegins : ¬layout.delimiter <+: version := fun h => hoccurs h.isInfix
        simp [hoccurs, hbegins]
  · -- Trimming shortens the version part, and dividing and joining never lengthens a text.
    refine iff_of_false (fun hjoin => ?_) fun h => htrim h.1
    have hshort := length_join_split_le hne (Text.trim version)
    have hlonger := Text.length_trim_lt htrim
    rw [hjoin] at hshort
    omega

end Layout

namespace Style

/-- The text that two parts are written as with the build part folded into the qualifier section; an
empty build part is left out. -/
def fold (style : Style) (parts : Parts) : Text :=
  if parts.build = [] then parts.version else style.foldBuild parts.version parts.build

/-- What stands between a version part and a build part that is folded into it. -/
def mark (style : Style) (version : Text) : Text :=
  (if Text.occursIn style.qualifierDelimiter version then style.tokenDelimiter
    else style.qualifierDelimiter) ++ (style.buildLabel ++ style.tokenDelimiter)

theorem foldBuild_eq_append (style : Style) (version build : Text) :
    style.foldBuild version build = version ++ (style.mark version ++ build) := by
  rw [foldBuild, mark]
  split <;> simp only [List.append_assoc]

theorem fold_of_build (style : Style) {parts : Parts} (h : parts.build ≠ []) :
    style.fold parts = parts.version ++ (style.mark parts.version ++ parts.build) := by
  rw [fold, if_neg h, foldBuild_eq_append]

theorem mark_mapBuildToQualifier (version : Text) :
    mapBuildToQualifier.mark version = ".build.".toList ∨
      mapBuildToQualifier.mark version = "-build.".toList := by
  unfold mark
  split
  · exact .inl rfl
  · exact .inr rfl

theorem trimmed_fold {first second : Text} (hs : Text.Trimmed (first ++ '+' :: second))
    (hbuild : second ≠ []) : Text.Trimmed (mapBuildToQualifier.fold ⟨first, second⟩) := by
  rw [fold_of_build _ hbuild]
  constructor
  · intro c hc
    cases first with
    | nil =>
      rcases mark_mapBuildToQualifier [] with h | h <;>
      · rw [h] at hc
        cases hc
        decide
    | cons d first => exact hs.1 c hc
  · intro c hc
    refine hs.2 c ?_
    obtain ⟨front, last, rfl⟩ := (List.eq_nil_or_concat second).resolve_left hbuild
    simp only [List.concat_eq_append, ← List.append_assoc, ← List.cons_append,
      List.getLast?_concat] at hc ⊢
    exact hc

theorem fold_ne_append_cons (first second : Text) :
    mapBuildToQualifier.fold ⟨first, second⟩ ≠ first ++ '+' :: second := by
  intro h
  -- One character is taken out, and none or seven are put in.
  have hlength := congrArg List.length h
  by_cases hbuild : second = []
  · simp [fold, hbuild] at hlength
  · rw [fold_of_build _ hbuild] at hlength
    rcases mark_mapBuildToQualifier first with hmark | hmark <;>
    · rw [hmark] at hlength
      simp at hlength
      omega

end Style

namespace Scheme

variable {scheme : Scheme}

/-- A text whose normalized form stays the same when it is normalized again. -/
def Settles (scheme : Scheme) (t : Text) : Prop :=
  ∃ n, scheme.normalize t = .ok n ∧ scheme.normalize n = .ok n

theorem settles_iff {t n : Text} (h : scheme.normalize t = .ok n) :
    scheme.Settles t ↔ scheme.normalize n = .ok n := by
  constructor
  · rintro ⟨m, hm, hsame⟩
    cases h.symm.trans hm
    exact hsame
  · intro hsame
    exact ⟨n, h, hsame⟩

theorem settles_iff_of_emit (hcodec : scheme.codec? = none) (hdivision : scheme.division? = none)
    (hemit : scheme.style.buildFormat = .emit) (hne : scheme.layout.delimiter ≠ []) (t : Text) :
    scheme.Settles t ↔ ((scheme.layout.split (Text.trim t)).build = [] →
      Text.Trimmed (scheme.layout.split (Text.trim t)).version ∧
        (scheme.layout.versionFirst = false →
          ¬scheme.layout.delimiter <+: (scheme.layout.split (Text.trim t)).version)) := by
  have hnormalize (s : Text) : scheme.normalize s =
      .ok (scheme.layout.join (scheme.layout.split (Text.trim s))) :=
    (normalize_eq_styled hcodec s).trans (styled_of_emit hdivision hemit hne _)
  rw [settles_iff (hnormalize t), hnormalize, Except.ok.injEq]
  by_cases hbuild : (scheme.layout.split (Text.trim t)).build = []
  · rw [Layout.join_split_of_noBuild hbuild, Layout.join_split_trim_eq_self_iff hne]
    · simp [hbuild]
    · intro hfirst
      exact Layout.not_infix_version hne hfirst _
  · simp [Layout.join_split_of_build hbuild, hbuild]

theorem styled_of_mapToQualifier (hdivision : scheme.division? = none)
    (hmap : scheme.style.buildFormat = .mapToQualifier) (v : Version) :
    scheme.styled v = .ok (scheme.style.fold (scheme.layout.split v.text)) := by
  have hsplit : scheme.split v.text = scheme.layout.split v.text := by rw [split, hdivision]
  rw [styled, hsplit, hmap, Style.fold]
  by_cases hbuild : (scheme.layout.split v.text).build = [] <;> simp [hbuild]

theorem normalize_mavenBuildMetadataIgnored (s : Text) :
    mavenBuildMetadataIgnored.normalize s =
      .ok (Style.mapBuildToQualifier.fold (Layout.buildAfterPlusIgnored.split (Text.trim s))) :=
  styled_of_mapToQualifier rfl rfl _

theorem normalize_of_notMem {s : Text} (h : '+' ∉ s) :
    mavenBuildMetadataIgnored.normalize s = .ok (Text.trim s) := by
  have hnone : '+' ∉ Text.trim s := fun hplus => h (Text.subset_trim s hplus)
  rw [normalize_mavenBuildMetadataIgnored, Layout.split_of_notMem rfl hnone]
  rfl

theorem normalize_fold_iff {first second : Text} (hfirst : '+' ∉ first)
    (htrimmed : Text.Trimmed (first ++ '+' :: second)) :
    mavenBuildMetadataIgnored.normalize (Style.mapBuildToQualifier.fold ⟨first, second⟩) =
        .ok (Style.mapBuildToQualifier.fold ⟨first, second⟩) ↔
      '+' ∉ second ∧ (second = [] → Text.Trimmed first) := by
  by_cases hbuild : second = []
  · subst hbuild
    have halone : Style.mapBuildToQualifier.fold ⟨first, []⟩ = first := rfl
    rw [halone, normalize_of_notMem hfirst, Except.ok.injEq, Text.trim_eq_self_iff]
    simp
  · have hfolded : Style.mapBuildToQualifier.fold ⟨first, second⟩ =
        first ++ (Style.mapBuildToQualifier.mark first ++ second) :=
      Style.fold_of_build _ hbuild
    have htrim := Text.trim_eq_self_iff.2 (Style.trimmed_fold htrimmed hbuild)
    have hmark : '+' ∉ Style.mapBuildToQualifier.mark first := by
      rcases Style.mark_mapBuildToQualifier first with h | h <;> rw [h] <;> decide
    by_cases hplus : '+' ∈ second
    · obtain ⟨front, back, rfl, hfront⟩ := List.eq_append_cons_of_mem hplus
      have hcut : Style.mapBuildToQualifier.fold ⟨first, front ++ '+' :: back⟩ =
          (first ++ (Style.mapBuildToQualifier.mark first ++ front)) ++ '+' :: back := by
        simp [hfolded]
      -- The first plus sign of the build part is now the first one of the text.
      refine iff_of_false (fun h => ?_) fun h => h.1 hplus
      rw [normalize_mavenBuildMetadataIgnored, htrim, hcut,
        Layout.split_append_cons rfl (by simp [hfirst, hmark, hfront]), Except.ok.injEq] at h
      exact Style.fold_ne_append_cons _ _ h
    · have hnone : '+' ∉ Style.mapBuildToQualifier.fold ⟨first, second⟩ := by
        simp [hfolded, hfirst, hmark, hplus]
      rw [normalize_of_notMem hnone, htrim]
      simp [hplus, hbuild]

theorem settles_mavenBuildMetadataIgnored_iff (t : Text) :
    mavenBuildMetadataIgnored.Settles t ↔
      '+' ∉ (Layout.buildAfterPlusIgnored.split (Text.trim t)).build ∧
        ((Layout.buildAfterPlusIgnored.split (Text.trim t)).build = [] →
          Text.Trimmed (Layout.buildAfterPlusIgnored.split (Text.trim t)).version) := by
  rw [settles_iff (normalize_mavenBuildMetadataIgnored t)]
  have htrimmed := Text.trimmed_trim t
  generalize Text.trim t = s at htrimmed ⊢
  by_cases hplus : '+' ∈ s
  · obtain ⟨first, second, rfl, hfirst⟩ := List.eq_append_cons_of_mem hplus
    rw [Layout.split_append_cons rfl hfirst]
    exact normalize_fold_iff hfirst htrimmed
  · have halone : Style.mapBuildToQualifier.fold ⟨s, []⟩ = s := rfl
    rw [Layout.split_of_notMem rfl hplus, halone, normalize_of_notMem hplus, Except.ok.injEq,
      Text.trim_eq_self_iff]
    simp

/-- Where there are no build parts, every text settles. A scheme that emits build parts settles on the
texts whose version part, if it is written alone, is trimmed and does not begin with the delimiter of
a build part in front; the scheme that folds build parts settles on the texts whose build part holds
no delimiter and whose version part, if it is written alone, is trimmed. -/
theorem builtin_settles_iff (t : Text) :
    (∀ scheme ∈ [mavenDefault, calverDefault], scheme.Settles t) ∧
    (∀ scheme ∈ [semverDefault, semverBuildFirst, semverBuildOrdered],
      (scheme.Settles t ↔ ((scheme.layout.split (Text.trim t)).build = [] →
        Text.Trimmed (scheme.layout.split (Text.trim t)).version ∧
          (scheme.layout.versionFirst = false →
            ¬['+'] <+: (scheme.layout.split (Text.trim t)).version)))) ∧
    (mavenBuildMetadataIgnored.Settles t ↔
      '+' ∉ (mavenBuildMetadataIgnored.layout.split (Text.trim t)).build ∧
        ((mavenBuildMetadataIgnored.layout.split (Text.trim t)).build = [] →
          Text.Trimmed (mavenBuildMetadataIgnored.layout.split (Text.trim t)).version)) := by
  refine ⟨?_, ?_, settles_mavenBuildMetadataIgnored_iff t⟩
  · intro scheme hscheme
    have hnormalize : ∀ s : Text, scheme.normalize s = .ok (Text.trim s) := by
      simp only [List.mem_cons, List.not_mem_nil, or_false] at hscheme
      rcases hscheme with rfl | rfl <;> exact fun _ => rfl
    exact ⟨Text.trim t, hnormalize t, by rw [hnormalize, Text.trim_trim]⟩
  · intro scheme hscheme
    simp only [List.mem_cons, List.not_mem_nil, or_false] at hscheme
    rcases hscheme with rfl | rfl | rfl <;> exact settles_iff_of_emit rfl rfl rfl (by decide) t

/-- Normalizing is not idempotent: a plus sign inside a build part that is folded begins a build part
the second time. -/
theorem not_builtin_settles : ¬∀ scheme ∈ builtins, ∀ t, scheme.Settles t := by
  intro h
  have hsettles := h mavenBuildMetadataIgnored (by simp [builtins]) "1+a+b".toList
  exact ((settles_mavenBuildMetadataIgnored_iff _).1 hsettles).1 (by decide)

end Scheme

end VersionOrder
