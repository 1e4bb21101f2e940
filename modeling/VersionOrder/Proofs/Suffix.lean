import VersionOrder.Proofs.FamilyOrder
import VersionOrder.Proofs.Scan

/-!
# Versions with a suffix

A suffix puts further items behind those of a version. Zeros that end the version are dropped there
and stand in front of the suffix in the longer text, so that the suffix is compared with the end of a
version, place by place. Under the Maven-like order a qualifier right behind the hyphen decides that,
unless it is another name of a plain release. Under semantic versioning a suffix that writes a number
other than zero before its first qualifier comes after the version, although it is a pre-release.

## Main definitions

- `Maven.preReleaseNames`: the canonical names that come before a plain release
- `Semver.IsCore`, `Semver.IsPreRelease`: the two parts of a pre-release version
- `Item.leading?`: the first item that says something
-/

namespace VersionOrder

namespace Item

section Suffix

variable {order : QualifierOrder}

theorem compareAll_nil_right (items : List Item) :
    compareAll order items [] = decisive (items.map (compareToMarker order)) := by
  rw [compareAll, zipPadded_nil_right, List.map_map]
  congr 1
  refine List.map_congr_left fun item _ => ?_
  cases item <;> rfl

/-- Sequences that begin alike are compared by what follows. -/
theorem compareAll_append_left (hself : ∀ q, order.compare q q = 0) (items left right : List Item) :
    compareAll order (items ++ left) (items ++ right) = compareAll order left right := by
  induction items with
  | nil => rfl
  | cons item items ih =>
    have htie : compare order item item = 0 := by
      cases item with
      | numeric n => exact signum_self n
      | qualifier q => exact hself q
      | releaseMarker => rfl
    calc compareAll order (item :: (items ++ left)) (item :: (items ++ right))
        = compareAll order (items ++ left) (items ++ right) := compareAll_of_tie htie
      _ = compareAll order left right := ih

theorem exists_trimEnd_append (items : List Item) :
    ∃ zeros, trimEnd items ++ zeros = items ∧ ∀ item ∈ zeros, isNegligible item = true := by
  refine ⟨items.rtakeWhile isNegligible, List.rdropWhile_append_rtakeWhile, ?_⟩
  intro item hitem
  exact List.mem_rtakeWhile_imp hitem

theorem trimEnd_trimEnd_append (items rest : List Item) :
    trimEnd (trimEnd items ++ rest) = trimEnd items ++ trimEnd rest := by
  induction rest using List.reverseRecOn with
  | nil =>
    rw [List.append_nil]
    exact (List.rdropWhile_idempotent _ items).trans (List.append_nil _).symm
  | append_singleton rest item ih =>
    show List.rdropWhile _ _ = _ ++ List.rdropWhile _ _
    rw [← List.append_assoc, List.rdropWhile_concat, List.rdropWhile_concat]
    split
    next => exact ih
    next => exact List.append_assoc ..

theorem decisive_of_negligible {items : List Item} (h : ∀ item ∈ items, isNegligible item = true) :
    decisive (items.map (compareToMarker order)) = 0 := by
  rw [decisive_eq_zero_iff, List.forall_mem_map]
  intro item hitem
  have hnegligible := h item hitem
  cases item with
  | numeric n => exact if_pos (of_decide_eq_true hnegligible)
  | qualifier q => cases hnegligible
  | releaseMarker => rfl

theorem compareAll_trimEnd_nil (items : List Item) :
    compareAll order (trimEnd items) [] = compareAll order items [] := by
  obtain ⟨zeros, hitems, hzeros⟩ := exists_trimEnd_append items
  conv_rhs => rw [← hitems]
  rw [compareAll_nil_right, compareAll_nil_right, List.map_append, decisive_append,
    decisive_of_negligible hzeros]
  split
  next h => exact h
  next => rfl

/-- Items behind those of a version are compared with the end of a version. -/
theorem compareAll_trimEnd_append (hself : ∀ q, order.compare q q = 0) (items suffix : List Item) :
    compareAll order (trimEnd (items ++ suffix)) (trimEnd items) =
      decisive (suffix.map (compareToMarker order)) := by
  obtain ⟨zeros, hitems, hzeros⟩ := exists_trimEnd_append items
  -- The zeros at the end of the version are no longer at the end, and count as part of the suffix.
  have hleft : trimEnd (items ++ suffix) = trimEnd items ++ trimEnd (zeros ++ suffix) := by
    rw [← trimEnd_trimEnd_append, ← List.append_assoc, hitems]
  have hboth := compareAll_append_left hself (trimEnd items) (trimEnd (zeros ++ suffix)) []
  rw [List.append_nil] at hboth
  rw [hleft, hboth, compareAll_trimEnd_nil, compareAll_nil_right, List.map_append, decisive_append,
    if_pos (decisive_of_negligible hzeros)]

end Suffix

/-- The first item of a text that says something. -/
def leading? (s : Text) : Option Item :=
  (scan s).find? fun item => !isNegligible item

end Item

namespace Maven

/-- The canonical names that come before a plain release. -/
def preReleaseNames : List Text :=
  ["snapshot".toList, "alpha".toList, "a".toList, "beta".toList, "b".toList, "milestone".toList,
    "m".toList, "rc".toList]

theorem rank_neg_of_mem_preReleaseNames : ∀ name ∈ preReleaseNames, rank name < 0 := by
  decide

theorem compare_append_gap (t : Text) {gap : Text} (hgap : gap.IsGap) (s : Text) :
    compare ⟨t ++ (gap ++ s)⟩ ⟨t⟩ = decisive ((Item.scan s).map (Item.compareToMarker order)) := by
  have hself : ∀ q, order.compare q q = 0 := fun q =>
    signPreorderOn_compareQualifiers.self (a := q) trivial
  rw [compare, items_eq, items_eq, Item.scan_append_gap t hgap, Item.compareAll_trimEnd_append hself]

theorem compareQualifiers_nil (q : Text) :
    compareQualifiers q [] =
      if rank (canonical q) = 0 then Text.compare (canonical q) [] else signum (rank (canonical q)) 0 :=
  rfl

theorem compareQualifiers_preRelease {q : Text} (h : canonical q ∈ preReleaseNames) :
    compareQualifiers q [] = -1 := by
  have hrank := rank_neg_of_mem_preReleaseNames _ h
  rw [compareQualifiers_nil, if_neg (Int.ne_of_lt hrank), signum_of_lt hrank]

/-- A service pack and every name without a rank come after a plain release. -/
theorem compareQualifiers_later {q : Text}
    (h : canonical q = "sp".toList ∨ rank? (canonical q) = none) : compareQualifiers q [] = 1 := by
  rw [compareQualifiers_nil]
  rcases h with hname | hnone
  · rw [hname]
    rfl
  · have hrank : rank (canonical q) = 0 := by rw [rank, hnone]; rfl
    rw [if_pos hrank]
    cases hname : canonical q with
    | nil =>
      rw [hname] at hnone
      cases hnone
    | cons c rest => rfl

/-- A qualifier behind a hyphen decides how a version compares with the version in front of the
hyphen: the names of pre-releases come before it, a service pack and all names without a rank come
after it, and the names of a plain release tie with it. -/
theorem compare_qualified (t : Text) {q s : Text} (hq : q.IsName)
    (hs : ∀ c ∈ s.head?, c.isAlpha = false) :
    (canonical q ∈ preReleaseNames → compare ⟨t ++ '-' :: (q ++ s)⟩ ⟨t⟩ < 0) ∧
      (canonical q = "sp".toList ∨ rank? (canonical q) = none →
        0 < compare ⟨t ++ '-' :: (q ++ s)⟩ ⟨t⟩) ∧
      (canonical q = [] → s = [] → compare ⟨t ++ '-' :: (q ++ s)⟩ ⟨t⟩ = 0) := by
  have hhyphen : Text.IsGap ['-'] := ⟨by simp, List.forall_mem_singleton.2 rfl⟩
  have hscan : Item.scan (q ++ s) = .qualifier q :: Item.scan s := by
    have hfront : ∀ c ∈ ([] : Text).getLast?, c.isAlpha = false := by simp
    have hitems := Item.scan_append_name hq hfront hs
    simpa [Item.scan] using hitems
  have hcompare : compare ⟨t ++ '-' :: (q ++ s)⟩ ⟨t⟩ =
      decisive (compareQualifiers q [] :: (Item.scan s).map (Item.compareToMarker order)) := by
    have hgap := compare_append_gap t hhyphen (q ++ s)
    rw [hscan] at hgap
    exact hgap
  rw [hcompare]
  refine ⟨?_, ?_, ?_⟩
  · intro hname
    rw [compareQualifiers_preRelease hname]
    exact (by decide : (-1 : Int) < 0)
  · intro hname
    rw [compareQualifiers_later hname]
    exact Int.one_pos
  · rintro hname rfl
    have htie : compareQualifiers q [] = 0 := by rw [compareQualifiers_nil, hname]; rfl
    rw [htie, Item.scan]
    rfl

/-- A release candidate with zeros behind it, a name without a rank, and another name of the plain
release, behind zeros. -/
theorem compare_qualified_candidate :
    (Text.IsName "CR".toList ∧ canonical "CR".toList ∈ preReleaseNames ∧
      compare (Version.ofString "1.0.0-CR.0.1") (Version.ofString "1.0.0") < 0) ∧
    (Text.IsName "jre".toList ∧ rank? (canonical "jre".toList) = none ∧
      0 < compare (Version.ofString "1.0.0-jre8") (Version.ofString "1.0.0")) ∧
    (Text.IsName "Final".toList ∧ canonical "Final".toList = [] ∧
      compare (Version.ofString "1.0.0-Final") (Version.ofString "1.0.0") = 0) := by
  have hcandidate : Text.IsName "CR".toList := ⟨by simp, List.all_eq_true.1 rfl⟩
  have hplatform : Text.IsName "jre".toList := ⟨by simp, List.all_eq_true.1 rfl⟩
  have hfinal : Text.IsName "Final".toList := ⟨by simp, List.all_eq_true.1 rfl⟩
  obtain ⟨hbefore, -, -⟩ := compare_qualified "1.0.0".toList (s := ".0.1".toList) hcandidate (by simp)
  obtain ⟨-, hafter, -⟩ := compare_qualified "1.0.0".toList (s := "8".toList) hplatform (by simp)
  obtain ⟨-, -, htie⟩ := compare_qualified "1.0.0".toList (s := []) hfinal (by simp)
  exact ⟨⟨hcandidate, by decide, hbefore (by decide)⟩,
    ⟨hplatform, by decide, hafter (.inr (by decide))⟩,
    ⟨hfinal, by decide, htie (by decide) rfl⟩⟩

end Maven

namespace Semver

/-- A decimal number. -/
def IsNumber (s : Text) : Prop :=
  s ≠ [] ∧ ∀ c ∈ s, c.isDigit = true

/-- Three numbers with dots between them. -/
def IsCore (s : Text) : Prop :=
  ∃ major minor patch, IsNumber major ∧ IsNumber minor ∧ IsNumber patch ∧
    s = major ++ '.' :: (minor ++ '.' :: patch)

/-- An identifier of a pre-release: ASCII letters, digits and hyphens. -/
def IsIdentifier (s : Text) : Prop :=
  s ≠ [] ∧ ∀ c ∈ s, c.isAlphanum = true ∨ c = '-'

/-- Identifiers with dots between them. -/
inductive IsPreRelease : Text → Prop where
  | single {identifier : Text} (h : IsIdentifier identifier) : IsPreRelease identifier
  | dotted {identifier rest : Text} (h : IsIdentifier identifier) (hrest : IsPreRelease rest) :
    IsPreRelease (identifier ++ '.' :: rest)

theorem IsCore.plus_notMem {core : Text} (h : IsCore core) : '+' ∉ core := by
  obtain ⟨major, minor, patch, hmajor, hminor, hpatch, rfl⟩ := h
  have hnumber : ∀ n, IsNumber n → '+' ∉ n := fun n hn hplus =>
    absurd (hn.2 '+' hplus) (by decide)
  simp [hnumber major hmajor, hnumber minor hminor, hnumber patch hpatch]

theorem IsPreRelease.plus_notMem {s : Text} (h : IsPreRelease s) : '+' ∉ s := by
  have hidentifier : ∀ {identifier : Text}, IsIdentifier identifier → '+' ∉ identifier :=
    fun hi hplus => absurd (hi.2 '+' hplus) (by decide)
  induction h with
  | single h => exact hidentifier h
  | dotted h hrest ih => simp [hidentifier h, ih]

/-- What says something does not tie with the end of a version. -/
theorem compareToMarker_ne_zero (item : Item) :
    decide (Item.compareToMarker order item ≠ 0) = !item.isNegligible := by
  cases item with
  | numeric n => by_cases h : n = 0 <;> simp [Item.compareToMarker, Item.isNegligible, h]
  | qualifier q => rfl
  | releaseMarker => rfl

theorem compare_append_gap {t gap : Text} (ht : '+' ∉ t) (hgap : gap.IsGap) (hplus : '+' ∉ gap)
    (s : Text) :
    compare ⟨t ++ (gap ++ s)⟩ ⟨t⟩ =
      (Item.leading? (s.takeWhile fun c => c ≠ '+')).elim 0 (Item.compareToMarker order) := by
  rw [compare, items_eq, items_eq, Item.scan_takeWhile_append_gap t hgap hplus, if_neg ht,
    Text.takeWhile_ne_eq_self ht, Item.compareAll_trimEnd_append Text.compare_self, decisive_map]
  simp only [compareToMarker_ne_zero]
  rfl

/-- A pre-release comes before its release exactly if the first item of the pre-release that is no
zero is a qualifier, and ties with it exactly if there is no such item. If a number comes first, the
pre-release is after the release. -/
theorem compare_preRelease_neg_iff {core s : Text} (hcore : IsCore core) (hs : IsPreRelease s) :
    (compare ⟨core ++ '-' :: s⟩ ⟨core⟩ < 0 ↔ ∃ q, Item.leading? s = some (.qualifier q)) ∧
      (compare ⟨core ++ '-' :: s⟩ ⟨core⟩ = 0 ↔ Item.leading? s = none) := by
  have hhyphen : Text.IsGap ['-'] := ⟨by simp, List.forall_mem_singleton.2 rfl⟩
  have hcompare := compare_append_gap hcore.plus_notMem hhyphen (by decide) s
  rw [Text.takeWhile_ne_eq_self hs.plus_notMem] at hcompare
  rw [show core ++ '-' :: s = core ++ (['-'] ++ s) from rfl, hcompare]
  cases hleading : Item.leading? s with
  | none => simp
  | some item =>
    have hsays : item.isNegligible = false := by simpa using List.find?_some hleading
    cases item with
    | numeric n =>
      have hn : n ≠ 0 := of_decide_eq_false hsays
      simp [Item.compareToMarker, hn]
    | qualifier q => simp [Item.compareToMarker, order]
    | releaseMarker => cases hsays

/-- A zero in front of the first qualifier does not count. -/
theorem compare_preRelease_neg_iff_zero :
    IsCore "1.0.0".toList ∧ IsPreRelease "0.rc-1".toList ∧
      compare (Version.ofString "1.0.0-0.rc-1") (Version.ofString "1.0.0") < 0 := by
  have hone : IsNumber ['1'] := ⟨by simp, List.forall_mem_singleton.2 rfl⟩
  have hzero : IsNumber ['0'] := ⟨by simp, List.forall_mem_singleton.2 rfl⟩
  have hcore : IsCore "1.0.0".toList := ⟨['1'], ['0'], ['0'], hone, hzero, hzero, rfl⟩
  have hfirst : IsIdentifier ['0'] := ⟨by simp, List.forall_mem_singleton.2 (.inl rfl)⟩
  have hsecond : IsIdentifier "rc-1".toList := ⟨by simp, by simp⟩
  have hs : IsPreRelease "0.rc-1".toList := .dotted hfirst (.single hsecond)
  have hleading : Item.leading? "0.rc-1".toList = some (.qualifier ['r', 'c']) := by
    rw [Item.leading?, ← Item.map_ofClassRun_words]
    rfl
  obtain ⟨hbefore, -⟩ := compare_preRelease_neg_iff hcore hs
  exact ⟨hcore, hs, hbefore.2 ⟨_, hleading⟩⟩

/-- Not every pre-release comes before its release: a number is compared as a fourth number of the
release. -/
theorem not_compare_preRelease_neg :
    ¬∀ core s : Text, IsCore core → IsPreRelease s → compare ⟨core ++ '-' :: s⟩ ⟨core⟩ < 0 := by
  intro h
  have hone : IsNumber ['1'] := ⟨by simp, List.forall_mem_singleton.2 rfl⟩
  have hzero : IsNumber ['0'] := ⟨by simp, List.forall_mem_singleton.2 rfl⟩
  have hcore : IsCore "1.0.0".toList := ⟨['1'], ['0'], ['0'], hone, hzero, hzero, rfl⟩
  have hs : IsPreRelease "1".toList :=
    .single ⟨by simp, List.forall_mem_singleton.2 (.inl rfl)⟩
  have hafter : compare (Version.ofString "1.0.0-1") (Version.ofString "1.0.0") = 1 := by decide
  have hbefore : compare (Version.ofString "1.0.0-1") (Version.ofString "1.0.0") < 0 :=
    h "1.0.0".toList "1".toList hcore hs
  omega

end Semver

end VersionOrder
