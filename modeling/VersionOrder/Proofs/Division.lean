import VersionOrder.Scheme

/-!
# Dividing a text and joining its parts

A layout divides a text at the first occurrence of its delimiter. Joining the parts puts the text
together again, unless the build part is empty: then the delimiter is left out. Behind an empty build
part that comes first, the version part may begin where the next delimiter is, so what is joined
divides in another place.

## Main definitions

- `Layout.join`: the text that a layout writes for two parts
-/

namespace VersionOrder

namespace Text

variable {delimiter s before after : Text} {p : Char}

theorem cutAt?_eq_none_iff : cutAt? delimiter s = none ↔ ¬delimiter <:+: s := by
  induction s with
  | nil => by_cases h : delimiter = [] <;> simp [cutAt?, h]
  | cons c rest ih =>
    rw [cutAt?, List.infix_cons_iff]
    by_cases h : delimiter <+: c :: rest
    · simp [h]
    · simp [h, ih]

theorem not_infix_of_cutAt? (hne : delimiter ≠ []) (h : cutAt? delimiter s = some (before, after)) :
    ¬delimiter <:+: before := by
  induction s generalizing before with
  | nil => simp [cutAt?, hne] at h
  | cons c rest ih =>
    rw [cutAt?] at h
    split at h
    next =>
      simp only [Option.some.injEq, Prod.mk.injEq] at h
      obtain ⟨rfl, -⟩ := h
      simpa using hne
    next hhere =>
      obtain ⟨⟨front, back⟩, hcut, heq⟩ := Option.map_eq_some_iff.1 h
      simp only [Prod.mk.injEq] at heq
      obtain ⟨rfl, rfl⟩ := heq
      rw [List.infix_cons_iff, not_or]
      refine ⟨fun hbegins => hhere ?_, ih hcut⟩
      -- An occurrence at the front of the cut part is one at the front of the text.
      rw [List.isPrefixOf_iff_prefix, ← append_of_cutAt? hcut]
      refine hbegins.trans ?_
      rw [List.append_assoc, ← List.cons_append]
      exact List.prefix_append _ _

end Text

namespace Layout

variable {layout : Layout} {s : Text}

/-- The text that two parts are written as; an empty build part is left out with its delimiter. -/
def join (layout : Layout) (parts : Parts) : Text :=
  if parts.build = [] then parts.version
  else if layout.versionFirst then parts.version ++ layout.delimiter ++ parts.build
  else parts.build ++ layout.delimiter ++ parts.version

theorem split_of_not_occurs (h : ¬layout.delimiter <:+: s) : layout.split s = ⟨s, []⟩ := by
  rw [split, Text.cutAt?_eq_none_iff.2 h]
  simp

/-- A text that holds the delimiter is divided at its first occurrence. -/
theorem exists_split (hne : layout.delimiter ≠ []) (h : layout.delimiter <:+: s) :
    ∃ first second, first ++ layout.delimiter ++ second = s ∧ ¬layout.delimiter <:+: first ∧
      layout.split s = if layout.versionFirst then ⟨first, second⟩ else ⟨second, first⟩ := by
  cases hcut : Text.cutAt? layout.delimiter s with
  | none => exact absurd h (Text.cutAt?_eq_none_iff.1 hcut)
  | some cut =>
    obtain ⟨first, second⟩ := cut
    refine ⟨first, second, Text.append_of_cutAt? hcut, Text.not_infix_of_cutAt? hne hcut, ?_⟩
    rw [split, if_neg (by simpa using hne), hcut]

theorem length_version_lt (hne : layout.delimiter ≠ []) (h : layout.delimiter <:+: s) :
    (layout.split s).version.length < s.length := by
  obtain ⟨first, second, rfl, -, hsplit⟩ := exists_split hne h
  have hpos := List.length_pos_iff.2 hne
  rw [hsplit]
  split <;> simp only [List.length_append] <;> omega

theorem split_eq_whole_iff (hne : layout.delimiter ≠ []) :
    layout.split s = ⟨s, []⟩ ↔ ¬layout.delimiter <:+: s := by
  refine ⟨fun h hoccurs => ?_, split_of_not_occurs⟩
  have hlt := length_version_lt hne hoccurs
  rw [h] at hlt
  exact Nat.lt_irrefl _ hlt

theorem join_split_of_build (hbuild : (layout.split s).build ≠ []) :
    layout.join (layout.split s) = s := by
  by_cases hne : layout.delimiter = []
  · simp [split, hne] at hbuild
  by_cases h : layout.delimiter <:+: s
  · obtain ⟨first, second, rfl, -, hsplit⟩ := exists_split hne h
    rw [hsplit] at hbuild ⊢
    rw [join, if_neg hbuild]
    split <;> rfl
  · simp [split_of_not_occurs h] at hbuild

theorem join_split_of_noBuild (hbuild : (layout.split s).build = []) :
    layout.join (layout.split s) = (layout.split s).version :=
  if_pos hbuild

theorem not_infix_version (hne : layout.delimiter ≠ []) (hfirst : layout.versionFirst = true)
    (s : Text) : ¬layout.delimiter <:+: (layout.split s).version := by
  by_cases h : layout.delimiter <:+: s
  · obtain ⟨first, second, -, hnone, hsplit⟩ := exists_split hne h
    simpa [hsplit, hfirst] using hnone
  · simpa [split_of_not_occurs h] using h

/-- Parts that are joined and divided again are the same, unless an empty build part came first and
the version part behind it holds another delimiter. -/
theorem split_join_split_iff (hne : layout.delimiter ≠ []) (s : Text) :
    layout.split (layout.join (layout.split s)) = layout.split s ↔
      (layout.versionFirst = false → (layout.split s).build = [] →
        ¬layout.delimiter <:+: (layout.split s).version) := by
  by_cases hbuild : (layout.split s).build = []
  · have hparts : layout.split s = ⟨(layout.split s).version, []⟩ := by rw [← hbuild]
    have hwhole : layout.split (layout.split s).version = layout.split s ↔
        ¬layout.delimiter <:+: (layout.split s).version := by
      rw [← split_eq_whole_iff hne, ← hparts]
    rw [join_split_of_noBuild hbuild, hwhole]
    -- A version part in front holds no delimiter, so only one that comes last is told apart.
    cases hfirst : layout.versionFirst with
    | true => simpa using not_infix_version hne hfirst s
    | false => simp [hbuild]
  · simp [join_split_of_build hbuild, hbuild]

end Layout

namespace Scheme

variable {scheme : Scheme}

/-- A scheme that emits build parts writes the parts of a version joined by its layout. -/
theorem styled_of_emit (hdivision : scheme.division? = none)
    (hemit : scheme.style.buildFormat = .emit) (hne : scheme.layout.delimiter ≠ []) (v : Version) :
    scheme.styled v = .ok (scheme.layout.join (scheme.layout.split v.text)) := by
  have hsplit : scheme.split v.text = scheme.layout.split v.text := by rw [split, hdivision]
  rw [styled, hsplit, hemit, Layout.join]
  by_cases hbuild : (scheme.layout.split v.text).build = []
  · simp [hbuild]
  · cases hfirst : scheme.layout.versionFirst <;> simp [hbuild, hne]

/-- A scheme that emits build parts always writes a text. The text divides as the version that was
written, unless its build part was empty and came first, with another delimiter behind it. -/
theorem split_normalize_iff (hcodec : scheme.codec? = none) (hdivision : scheme.division? = none)
    (hemit : scheme.style.buildFormat = .emit) (hne : scheme.layout.delimiter ≠ []) (t : Text) :
    ∃ n, scheme.normalize t = .ok n ∧
      (scheme.layout.split n = scheme.layout.split (Text.trim t) ↔
        (scheme.layout.versionFirst = false → (scheme.layout.split (Text.trim t)).build = [] →
          ¬scheme.layout.delimiter <:+: (scheme.layout.split (Text.trim t)).version)) :=
  ⟨_, (normalize_eq_styled hcodec t).trans (styled_of_emit hdivision hemit hne _),
    Layout.split_join_split_iff hne (Text.trim t)⟩

/-- A build part in front of a plus sign is a case of this. -/
theorem split_normalize_semverBuildFirst :
    semverBuildFirst.codec? = none ∧ semverBuildFirst.division? = none ∧
      semverBuildFirst.style.buildFormat = .emit ∧ semverBuildFirst.layout.delimiter ≠ [] ∧
      ∃ n, semverBuildFirst.normalize " 7+1.0+rc ".toList = .ok n ∧
        (semverBuildFirst.layout.split n =
            semverBuildFirst.layout.split (Text.trim " 7+1.0+rc ".toList) ↔
          (semverBuildFirst.layout.versionFirst = false →
            (semverBuildFirst.layout.split (Text.trim " 7+1.0+rc ".toList)).build = [] →
            ¬semverBuildFirst.layout.delimiter <:+:
              (semverBuildFirst.layout.split (Text.trim " 7+1.0+rc ".toList)).version)) :=
  ⟨rfl, rfl, rfl, by decide, split_normalize_iff rfl rfl rfl (by decide) _⟩

/-- The plus sign in front of a version without a build part is left out, and the next one then ends a
build part. -/
theorem not_split_normalize :
    ¬∀ scheme : Scheme, scheme.codec? = none → scheme.division? = none →
      scheme.style.buildFormat = .emit → scheme.layout.delimiter ≠ [] →
      ∀ t n, scheme.normalize t = .ok n →
        scheme.layout.split n = scheme.layout.split (Text.trim t) := by
  intro h
  have hsplit := h semverBuildFirst rfl rfl rfl (by decide) "+1+2".toList "1+2".toList (by rfl)
  exact absurd hsplit (by decide)

end Scheme

end VersionOrder
