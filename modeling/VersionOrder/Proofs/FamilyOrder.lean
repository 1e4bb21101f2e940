import VersionOrder.Proofs.ItemLoop
import VersionOrder.Scheme

/-!
# The orders of the families

Under semantic versioning every qualifier comes before a plain release, and the comparison is a
total preorder on all versions. The Maven-like families place some qualifiers at or after a plain
release, and the comparison is a total preorder on exactly the sets of versions without a loop.
-/

namespace VersionOrder

namespace Semver

/-- Semantic versioning orders all versions. -/
theorem signPreorderOn_compare : SignPreorderOn compare fun _ => True := by
  let placed : Item → Prop := fun item => item.Written ∨ item = .releaseMarker
  have hitems : SignPreorderOn (Item.compare order) placed := by
    refine Item.signPreorderOn_compare Text.signPreorderOn_compare ?_ fun _ _ _ => ?_
    · rintro n (h | h)
      · exact h
      · cases h
    · exact (by decide : (-1 : Int) < 0)
  have hversions := (Item.signPreorderOn_compareAll hitems (.inr rfl)).comap items
  exact hversions.mono _ fun v _ item hitem => .inl (Item.written_of_mem_ofTokens hitem)

end Semver

/-- The comparison of semantic versioning answers for every two versions, and its answers are a
total preorder. -/
theorem Comparator.totalPreorderOn_semver :
    TotalPreorderOn Comparator.semver.compare fun _ => True :=
  (totalPreorderOn_iff fun _ _ _ _ => rfl).2 Semver.signPreorderOn_compare

namespace Maven

theorem compareQualifiers_swap (p q : Text) : compareQualifiers q p = -compareQualifiers p q := by
  simp only [compareQualifiers]
  by_cases h : rank (canonical p) = rank (canonical q)
  · rw [if_pos h, if_pos h.symm, Text.compare_swap]
  · rw [if_neg h, if_neg (Ne.symm h), signum_swap]

/-- Qualifiers are ordered by rank, then by canonical name. -/
theorem signPreorderOn_compareQualifiers : SignPreorderOn compareQualifiers fun _ => True := by
  have hranks := signPreorderOn_signum.comap fun q : Text => rank (canonical q)
  have hnames := Text.signPreorderOn_compare.comap canonical
  have hboth := hranks.lex hnames
  simp only [signum_eq_zero_iff] at hboth
  exact hboth

theorem compare_swap (v w : Version) : compare w v = -compare v w :=
  Item.compareAll_swap compareQualifiers_swap (items v) (items w)

theorem written_of_mem_items {v : Version} : ∀ item ∈ items v, item.Written :=
  fun _ h => Item.written_of_mem_ofTokens h

/-- Three versions whose items are a loop. -/
def Loop (u v w : Version) : Prop :=
  Item.Loop order (items u) (items v) (items w)

/-- Without loops, "not after" is transitive. -/
theorem compare_trans {u v w : Version} (hloop : ¬(Loop u v w ∨ Loop v w u ∨ Loop w u v))
    (huv : compare u v ≤ 0) (hvw : compare v w ≤ 0) : compare u w ≤ 0 := by
  -- A last version before the first one would close a circle that does not tie.
  refine Int.not_lt.1 fun huw => hloop ?_
  have hwu : compare w u < 0 := by
    rw [compare_swap u w]
    omega
  exact Item.loop_of_circle signPreorderOn_compareQualifiers (fun _ => rfl) written_of_mem_items
    written_of_mem_items written_of_mem_items huv hvw (Int.le_of_lt hwu)
    fun htie => Int.ne_of_lt hwu htie.2.2

end Maven

/-- The default scheme compares whole texts by the Maven-like order. -/
theorem Scheme.compare_mavenDefault (v w : Version) :
    Scheme.mavenDefault.compare v w = .ok (Maven.compare v w) := rfl

/-- The default scheme orders a set of versions exactly if there is no loop in the set. -/
theorem Scheme.totalPreorderOn_mavenDefault_iff (versions : Version → Prop) :
    TotalPreorderOn Scheme.mavenDefault.compare versions ↔
      ∀ u v w, versions u → versions v → versions w → ¬Maven.Loop u v w := by
  rw [totalPreorderOn_iff fun _ _ _ _ => Scheme.compare_mavenDefault _ _]
  constructor
  · intro horder u v w hu hv hw hloop
    obtain ⟨huv, hvw, hwu⟩ := hloop.circle
    have htie := horder.tie_of_circle hu hv hw huv hvw (Int.le_of_lt hwu)
    exact Int.ne_of_lt hwu htie.2.2
  · intro hnone
    constructor
    · intro u v _ _
      rw [Maven.compare_swap u v]
      omega
    · intro u v w hu hv hw
      apply Maven.compare_trans
      rintro (h | h | h)
      · exact hnone u v w hu hv hw h
      · exact hnone v w u hv hw hu h
      · exact hnone w u v hw hu hv h

/-- The default scheme does not order all versions: a version with a service pack is after the plain
release, and before a pre-release with one zero more, which is before the plain release. -/
theorem Scheme.not_totalPreorderOn_mavenDefault :
    ¬TotalPreorderOn Scheme.mavenDefault.compare fun _ => True := by
  rw [totalPreorderOn_iff fun _ _ _ _ => Scheme.compare_mavenDefault _ _]
  intro horder
  let release := Version.ofString "1"
  let servicePack := Version.ofString "1-sp"
  let preRelease := Version.ofString "1.0-alpha"
  have hfirst : Maven.compare release servicePack = -1 := by decide
  have hsecond : Maven.compare servicePack preRelease = -1 := by decide
  have hthird : Maven.compare release preRelease = 1 := by decide
  have htrans := horder.trans (a := release) (b := servicePack) (c := preRelease)
    trivial trivial trivial
  omega

end VersionOrder
