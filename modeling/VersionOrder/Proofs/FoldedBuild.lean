import VersionOrder.Proofs.CanonicalQualifier
import VersionOrder.Proofs.Normalization

/-!
# What a folded build part leaves of a version

A build part that is folded into a version goes behind everything that is there: it ends the qualifier
section, or makes one if there is none. What stands before the section stays as it is. The section is
no longer that of a release, and it is that of a snapshot exactly if it was before.
-/

namespace VersionOrder

namespace Style

variable {style : Style} {p : Char} {version : Text}

theorem mark_of_mem (hp : style.qualifierDelimiter = [p]) (h : p ∈ version) :
    style.mark version = style.tokenDelimiter ++ (style.buildLabel ++ style.tokenDelimiter) := by
  rw [mark, hp, Text.occursIn_singleton, if_pos (by simpa using h)]

theorem mark_of_notMem (hp : style.qualifierDelimiter = [p]) (h : p ∉ version) :
    style.mark version = p :: (style.buildLabel ++ style.tokenDelimiter) := by
  rw [mark, hp, Text.occursIn_singleton, if_neg (by simpa using h), List.singleton_append]

/-- Nothing is put before the start of the qualifier section. -/
theorem takeWhile_foldBuild (hp : style.qualifierDelimiter = [p]) (version build : Text) :
    ((style.foldBuild version build).takeWhile fun c => c ≠ p) =
      version.takeWhile fun c => c ≠ p := by
  rw [foldBuild_eq_append]
  by_cases h : p ∈ version
  · rw [Text.takeWhile_append_of_mem h]
  · rw [Text.takeWhile_append_of_notMem h, mark_of_notMem hp h, Text.takeWhile_ne_eq_self h]
    simp

/-- A delimiter in the build part cuts off what is behind it, and nothing else. -/
theorem takeWhile_foldBuild_mapBuildToQualifier (h : '+' ∉ version) (build : Text) :
    ((mapBuildToQualifier.foldBuild version build).takeWhile fun c => c ≠ '+') =
      mapBuildToQualifier.foldBuild version (build.takeWhile fun c => c ≠ '+') := by
  have hmark : '+' ∉ mapBuildToQualifier.mark version := by
    rcases mark_mapBuildToQualifier version with hmark | hmark <;> rw [hmark] <;> decide
  rw [foldBuild_eq_append, foldBuild_eq_append, Text.takeWhile_append_of_notMem h,
    Text.takeWhile_append_of_notMem hmark]

end Style

namespace Qualifier

open QualifierKind Scheme

variable {scheme : Scheme} {p : Char} {s version before after : Text}

/-- A version part without a delimiter is that of a release. -/
theorem kind_extract_of_notMem (hp : scheme.style.qualifierDelimiter = [p])
    (h : p ∉ (scheme.split (Text.trim s)).version) : (extract ⟨s⟩ scheme).kind = .release := by
  simp [extract, hp, Text.cutAt?_singleton, h]

/-- Otherwise what follows the first delimiter tells the kind. -/
theorem kind_extract_of_append (hp : scheme.style.qualifierDelimiter = [p])
    (h : (scheme.split (Text.trim s)).version = before ++ p :: after) (hbefore : p ∉ before) :
    (extract ⟨s⟩ scheme).kind = detect (some after) := by
  simp [extract, hp, h, Text.cutAt?_append_cons hbefore]

/-- What a folded build part brings along stands behind a dot, so it makes no snapshot and spoils
none. -/
theorem kind_extract_of_folded {t build : Text}
    (hs : (mavenBuildMetadataIgnored.split (Text.trim s)).version =
      Style.mapBuildToQualifier.foldBuild version build)
    (ht : (mavenBuildMetadataIgnored.split (Text.trim t)).version = version) :
    (extract ⟨s⟩ mavenBuildMetadataIgnored).kind =
      if (extract ⟨t⟩ mavenBuildMetadataIgnored).kind = .snapshot then .snapshot
      else .preRelease := by
  rw [Style.foldBuild_eq_append] at hs
  by_cases hdash : '-' ∈ version
  · obtain ⟨before, after, rfl, hbefore⟩ := List.eq_append_cons_of_mem hdash
    have hfolded : (mavenBuildMetadataIgnored.split (Text.trim s)).version =
        before ++ '-' :: (after ++ '.' :: ("build.".toList ++ build)) := by
      rw [hs, Style.mark_of_mem rfl hdash]
      simp [Style.mapBuildToQualifier]
    rw [kind_extract_of_append rfl hfolded hbefore, kind_extract_of_append rfl ht hbefore,
      detect_append_dot]
  · have hfolded : (mavenBuildMetadataIgnored.split (Text.trim s)).version =
        version ++ '-' :: ("build".toList ++ '.' :: build) := by
      rw [hs, Style.mark_of_notMem rfl hdash]
      simp [Style.mapBuildToQualifier]
    have hrelease := kind_extract_of_notMem (p := '-') rfl (ht ▸ hdash)
    rw [kind_extract_of_append rfl hfolded hdash, hrelease, detect_append_dot]
    decide

/-- Folding a build part into the qualifier section leaves what stands before the section as it is.
The kind of the qualifier stays that of a snapshot if it was, and otherwise it becomes the kind of
what comes before a release. -/
theorem kind_extract_normalize (t : Text)
    (hbuild : (mavenBuildMetadataIgnored.split (Text.trim t)).build ≠ []) :
    ∃ n, mavenBuildMetadataIgnored.normalize t = .ok n ∧
      (n.takeWhile fun c => c ≠ '-') =
        ((mavenBuildMetadataIgnored.split (Text.trim t)).version.takeWhile fun c => c ≠ '-') ∧
      (extract ⟨n⟩ mavenBuildMetadataIgnored).kind =
        if (extract ⟨t⟩ mavenBuildMetadataIgnored).kind = .snapshot then .snapshot
        else .preRelease := by
  have hplus : '+' ∈ Text.trim t := by
    refine Decidable.by_contra fun hnone => hbuild ?_
    exact congrArg Parts.build (Layout.split_of_notMem rfl hnone)
  obtain ⟨version, build, hparts, hversion⟩ := List.eq_append_cons_of_mem hplus
  have hsplit : mavenBuildMetadataIgnored.split (Text.trim t) = ⟨version, build⟩ := by
    rw [hparts]
    exact Layout.split_append_cons rfl hversion build
  rw [hsplit] at hbuild ⊢
  have hfold : Style.mapBuildToQualifier.fold ⟨version, build⟩ =
      Style.mapBuildToQualifier.foldBuild version build := if_neg hbuild
  have htrim : Text.trim (Style.mapBuildToQualifier.foldBuild version build) =
      Style.mapBuildToQualifier.foldBuild version build := by
    rw [Text.trim_eq_self_iff, ← hfold]
    exact Style.trimmed_fold (hparts ▸ Text.trimmed_trim t) hbuild
  refine ⟨Style.mapBuildToQualifier.foldBuild version build, ?_,
    Style.takeWhile_foldBuild rfl version build, ?_⟩
  · rw [← hfold, ← hsplit]
    exact normalize_mavenBuildMetadataIgnored t
  · -- The build part may bring delimiters along: then it is cut off at the first of them.
    have hcut : (mavenBuildMetadataIgnored.split (Text.trim
        (Style.mapBuildToQualifier.foldBuild version build))).version =
          Style.mapBuildToQualifier.foldBuild version (build.takeWhile fun c => c ≠ '+') := by
      rw [htrim, ← Style.takeWhile_foldBuild_mapBuildToQualifier hversion]
      exact Layout.split_version rfl rfl _
    exact kind_extract_of_folded hcut (congrArg Parts.version hsplit)

/-- A build part with delimiters of both kinds, behind a snapshot. -/
theorem kind_extract_normalize_snapshot :
    (mavenBuildMetadataIgnored.split (Text.trim " 1-Snapshot.ß+a-1+b ".toList)).build ≠ [] ∧
    ∃ n, mavenBuildMetadataIgnored.normalize " 1-Snapshot.ß+a-1+b ".toList = .ok n ∧
      (n.takeWhile fun c => c ≠ '-') = ['1'] ∧
      (extract ⟨n⟩ mavenBuildMetadataIgnored).kind = .snapshot := by
  have hbuild : (mavenBuildMetadataIgnored.split
      (Text.trim " 1-Snapshot.ß+a-1+b ".toList)).build ≠ [] := by decide
  exact ⟨hbuild, kind_extract_normalize _ hbuild⟩

end Qualifier

end VersionOrder
