import VersionOrder.Proofs.Lexicographic
import VersionOrder.Proofs.Suffix

/-!
# Versions with the names of pre-releases

Among versions whose only qualifiers are names of pre-releases, the Maven-like order is lexicographic:
a number counts by its magnitude at the rank of a release, a name by its negative rank and then by
itself, and the shorter version is filled up with zeros. On these versions it is a total preorder; with
other names it need not be one.

## Main definitions

- `Maven.Key`, `Maven.key`: what an item is compared by
- `Maven.compareKeys`: the lexicographic comparison of keys
- `Maven.OnlyPreReleases`: the texts without other names
-/

namespace VersionOrder

theorem Item.qualifier_mem_scan {s q : Text} (h : .qualifier q ∈ scan s) : q ∈ Text.letterRuns s := by
  rw [← map_ofClassRun_words] at h
  obtain ⟨⟨k, run⟩, hr, hitem⟩ := List.mem_map.1 h
  obtain ⟨hmem, hkept⟩ := List.mem_filter.1 hr
  rw [Text.letterRuns_eq_classRuns]
  cases k with
  | digit => cases hitem
  | letter =>
    cases hitem
    exact List.mem_map.2 ⟨_, List.mem_filter.2 ⟨hmem, rfl⟩, rfl⟩
  | other => exact absurd rfl (of_decide_eq_true hkept)

namespace Maven

/-- A rank, and behind it a number or a name. -/
abbrev Key := Int ×ₗ (Int ⊕ₗ Text)

/-- A number has the rank of a release, a qualifier that of its canonical name; the end of a version
stands where a zero does. -/
def key : Item → Key
  | .numeric n => toLex (0, toLex (.inl n))
  | .qualifier q => toLex (rank (canonical q), toLex (.inr (canonical q)))
  | .releaseMarker => toLex (0, toLex (.inl 0))

/-- The lexicographic comparison of two sequences of keys, the shorter one filled up with the key of
zero. -/
def compareKeys (left right : List Key) : Int :=
  comparePadded (key (.numeric 0)) left right

/-- All letter runs of the text are names of pre-releases. -/
def OnlyPreReleases (s : Text) : Prop :=
  ∀ run ∈ Text.letterRuns s, canonical run ∈ preReleaseNames

/-- A magnitude, the name of a pre-release or the end of a version. -/
def Placed : Item → Prop
  | .numeric n => 0 ≤ n
  | .qualifier q => canonical q ∈ preReleaseNames
  | .releaseMarker => True

theorem mem_letterRuns_of_mem_items {v : Version} {q : Text} (h : .qualifier q ∈ items v) :
    q ∈ Text.letterRuns v.text := by
  rw [items_eq] at h
  obtain ⟨zeros, hscan, -⟩ := Item.exists_trimEnd_append (Item.scan v.text)
  exact Item.qualifier_mem_scan (hscan ▸ List.mem_append_left zeros h)

theorem placed_of_mem_items {v : Version} (hv : OnlyPreReleases v.text) :
    ∀ item ∈ items v, Placed item := by
  intro item hitem
  have hwritten := written_of_mem_items item hitem
  cases item with
  | numeric n => exact hwritten
  | qualifier q => exact hv q (mem_letterRuns_of_mem_items hitem)
  | releaseMarker => trivial

theorem threeWay_key_numeric (m n : Int) :
    threeWay (key (.numeric m)) (key (.numeric n)) = signum m n := by
  rw [key, key, threeWay_toLex, threeWay_self, if_pos rfl, threeWay_inl]
  rfl

theorem threeWay_key_qualifier (p q : Text) :
    threeWay (key (.qualifier p)) (key (.qualifier q)) = compareQualifiers p q := by
  have hrank : threeWay (rank (canonical p)) (rank (canonical q)) =
      signum (rank (canonical p)) (rank (canonical q)) := rfl
  rw [key, key, threeWay_toLex, threeWay_inr, ← Text.compare_eq_threeWay, hrank]
  simp only [signum_eq_zero_iff]
  rfl

theorem key_qualifier_lt {q : Text} (hq : canonical q ∈ preReleaseNames) (n : Int) :
    key (.qualifier q) < key (.numeric n) :=
  Prod.Lex.toLex_lt_toLex.2 (.inl (rank_neg_of_mem_preReleaseNames _ hq))

/-- The end of a version stands where a zero does. -/
theorem compare_releaseMarker {item : Item} (h : Placed item) :
    Item.compare order .releaseMarker item = Item.compare order (.numeric 0) item := by
  cases item with
  | numeric n =>
    have hn : 0 ≤ n := h
    simp only [Item.compare, Item.compareToMarker, signum]
    split <;> split <;> omega
  | qualifier q =>
    show -compareQualifiers q [] = 1
    rw [compareQualifiers_preRelease h]
    rfl
  | releaseMarker => rfl

theorem compare_to_releaseMarker {item : Item} (h : Placed item) :
    Item.compare order item .releaseMarker = Item.compare order item (.numeric 0) := by
  rw [Item.compare_swap compareQualifiers_swap .releaseMarker, compare_releaseMarker h,
    ← Item.compare_swap compareQualifiers_swap (.numeric 0)]

theorem compare_eq_threeWay (a b : Item) (ha : Placed a) (hb : Placed b) :
    Item.compare order a b = threeWay (key a) (key b) := by
  cases a with
  | numeric m =>
    cases b with
    | numeric n => exact (threeWay_key_numeric m n).symm
    | qualifier q => exact (threeWay_of_gt (key_qualifier_lt hb m)).symm
    | releaseMarker => exact (compare_to_releaseMarker ha).trans (threeWay_key_numeric m 0).symm
  | qualifier p =>
    cases b with
    | numeric n => exact (threeWay_of_lt (key_qualifier_lt ha n)).symm
    | qualifier q => exact (threeWay_key_qualifier p q).symm
    | releaseMarker =>
      exact (compare_to_releaseMarker ha).trans (threeWay_of_lt (key_qualifier_lt ha 0)).symm
  | releaseMarker =>
    cases b with
    | numeric n => exact (compare_releaseMarker hb).trans (threeWay_key_numeric 0 n).symm
    | qualifier q =>
      exact (compare_releaseMarker hb).trans (threeWay_of_gt (key_qualifier_lt hb 0)).symm
    | releaseMarker => exact (threeWay_self _).symm

/-- Versions without other names than those of pre-releases are compared as the keys of their items
are in lexicographic order, the shorter sequence filled up with the key of zero, and this is a total
preorder. -/
theorem onlyPreReleases_lexicographic :
    (∀ v w, OnlyPreReleases v.text → OnlyPreReleases w.text →
      compare v w = compareKeys ((items v).map key) ((items w).map key)) ∧
      TotalPreorderOn Comparator.maven.compare fun v => OnlyPreReleases v.text := by
  constructor
  · intro v w hv hw
    have hend : Placed .releaseMarker := trivial
    exact decisive_zipPadded_eq compare_eq_threeWay hend (placed_of_mem_items hv)
      (placed_of_mem_items hw)
  · have hitems : SignPreorderOn (Item.compare order) Placed := .keyed compare_eq_threeWay
    have hversions := (Item.signPreorderOn_compareAll hitems trivial).comap items
    refine (totalPreorderOn_iff fun _ _ _ _ => rfl).2 (hversions.mono _ fun v hv => ?_)
    exact placed_of_mem_items hv

/-- Two spellings of one name, where the number behind it decides. -/
theorem onlyPreReleases_lexicographic_milestones :
    OnlyPreReleases "1-Milestone.2.0".toList ∧ OnlyPreReleases " 1-milestone10-CR".toList ∧
      compareKeys
          [toLex (0, toLex (.inl 1)), toLex (-20, toLex (.inr "milestone".toList)),
            toLex (0, toLex (.inl 2))]
          [toLex (0, toLex (.inl 1)), toLex (-20, toLex (.inr "milestone".toList)),
            toLex (0, toLex (.inl 10)), toLex (-10, toLex (.inr "rc".toList))] = -1 := by
  have hfirst : OnlyPreReleases "1-Milestone.2.0".toList := by
    intro run hrun
    revert run
    decide
  have hsecond : OnlyPreReleases " 1-milestone10-CR".toList := by
    intro run hrun
    revert run
    decide
  have hanswer : compare (Version.ofString "1-Milestone.2.0")
      (Version.ofString " 1-milestone10-CR") = -1 := by decide
  obtain ⟨hkeys, -⟩ := onlyPreReleases_lexicographic
  exact ⟨hfirst, hsecond, (hkeys _ _ hfirst hsecond).symm.trans hanswer⟩

end Maven

end VersionOrder
