import VersionOrder.Proofs.BuildOrder
import VersionOrder.Settings.Definition

/-!
# Comparing both ways round

Every branch of a comparison has a mirror image: with the sides swapped, an answer turns its sign,
and where there is no answer one way round there is none the other way round. So no version differs
from itself. Only a caller's own rule can break this, and a comparator without such a rule keeps it.

## Main definitions

- `Mirrored`: two results that mirror each other
- `Comparator.EvenHanded`: a comparator whose rules, if it has any, mirror their results
-/

namespace VersionOrder

/-- Two results that mirror each other: an answer and its negative, or a fault on either side. -/
inductive Mirrored : Except Fault Int → Except Fault Int → Prop where
  | answers (r : Int) : Mirrored (.ok r) (.ok (-r))
  | faults (fault other : Fault) : Mirrored (.error fault) (.error other)

namespace Mirrored

variable {mine theirs second other : Except Fault Int}

theorem ok_neg (h : Mirrored mine theirs) {r : Int} (hr : mine = .ok r) : theirs = .ok (-r) := by
  cases h with
  | answers s =>
    cases hr
    rfl
  | faults fault other => cases hr

theorem fault_iff (h : Mirrored mine theirs) :
    (∃ fault, mine = .error fault) ↔ ∃ fault, theirs = .error fault := by
  cases h with
  | answers r => simp
  | faults fault other => simp

/-- A result that mirrors itself is zero, if it is an answer. -/
theorem eq_zero (h : Mirrored mine mine) {r : Int} (hr : mine = .ok r) : r = 0 := by
  have hneg : r = -r := Except.ok.inj (hr.symm.trans (h.ok_neg hr))
  omega

/-- A second comparison may decide where the first one ties. -/
theorem andThen (h : Mirrored mine theirs) (hsecond : Mirrored second other) :
    Mirrored (do let r ← mine; if r = 0 then second else return r)
      (do let r ← theirs; if r = 0 then other else return r) := by
  cases h with
  | faults fault other => exact .faults fault other
  | answers r =>
    by_cases hr : r = 0
    · simpa [hr, bind, Except.bind] using hsecond
    · simpa [hr, bind, Except.bind, pure, Except.pure] using Mirrored.answers r

/-- Both sides may be read first, the left one before the right one. -/
theorem afterReading {α β : Type} (read : α → Except Fault β)
    {compare opposite : β → β → Except Fault Int}
    (h : ∀ b c, Mirrored (compare b c) (opposite c b)) (left right : α) :
    Mirrored (do let b ← read left; let c ← read right; compare b c)
      (do let c ← read right; let b ← read left; opposite c b) := by
  cases read left with
  | error fault =>
    cases read right with
    -- Either way round the side that is read first is named; that may be another one.
    | error other => exact .faults fault other
    | ok c => exact .faults fault fault
  | ok b =>
    cases read right with
    | error fault => exact .faults fault fault
    | ok c => exact h b c

end Mirrored

theorem Semver.compare_swap (v w : Version) : compare w v = -compare v w :=
  Item.compareAll_swap Text.compare_swap (items v) (items w)

theorem Calendar.compareParts_swap (left right : List Nat) :
    compareParts right left = -compareParts left right :=
  decisive_zipPadded_swap (fun m n : Nat => signum m n) 0 (fun m n => signum_swap m n) left right

namespace BuildToken

theorem compare_swap (a b : BuildToken) : compare b a = -compare a b := by
  cases a with
  | number m =>
    cases b with
    | number n => exact signum_swap m n
    | word t => rfl
  | word s =>
    cases b with
    | number n => rfl
    | word t => exact Text.compare_swap _ _

theorem compareAll_swap (left right : List BuildToken) :
    compareAll right left = -compareAll left right := by
  induction left generalizing right with
  | nil => cases right <;> rfl
  | cons a left ih =>
    cases right with
    | nil => rfl
    | cons b right =>
      simp only [compareAll, compare_swap a b, Int.neg_eq_zero, ih right]
      split <;> rfl

end BuildToken

theorem compareBuilds_mirrored (left right : Text) :
    Mirrored (compareBuilds left right) (compareBuilds right left) := by
  cases left with
  | nil =>
    cases right with
    | nil => exact .answers 0
    | cons d right => exact .answers (-1)
  | cons c left =>
    cases right with
    | nil => exact .answers 1
    | cons d right =>
      refine Mirrored.afterReading BuildToken.read (fun a b => ?_) (c :: left) (d :: right)
      rw [BuildToken.compareAll_swap a b]
      exact .answers _

namespace Comparator

/-- Every rule of the caller's own that a comparator uses mirrors its results. -/
def EvenHanded : Comparator → Prop
  | .maven | .semver => True
  | .calendar fallback => fallback.EvenHanded
  | .rule compare => ∀ v w, Mirrored (compare v w) (compare w v)
  | .buildAware base _ => base.EvenHanded

/-- Calendar parts decide both ways round, or leave the decision to the fallback both ways. -/
theorem calendar_mirrored {fallback : Comparator}
    (h : ∀ v w, Mirrored (fallback.compare v w) (fallback.compare w v)) (v w : Version) :
    Mirrored ((calendar fallback).compare v w) ((calendar fallback).compare w v) := by
  simp only [compare]
  refine Mirrored.afterReading Calendar.parts (fun leftParts rightParts => ?_) v w
  rw [Bool.or_comm rightParts.isEmpty, Calendar.compareParts_swap leftParts rightParts]
  split
  next => exact h v w
  next => exact Mirrored.andThen (.answers (Calendar.compareParts leftParts rightParts)) (h v w)

/-- Version parts decide both ways round, or leave the decision to the build parts both ways. -/
theorem buildAware_mirrored {base : Comparator} {layout : Layout}
    (h : ∀ v w, Mirrored (base.compare v w) (base.compare w v)) (v w : Version) :
    Mirrored ((buildAware base layout).compare v w) ((buildAware base layout).compare w v) := by
  simp only [compare]
  refine Mirrored.andThen (h _ _) ?_
  cases layout.effectiveComparison with
  | ignore => exact .answers 0
  | tokenCompare => exact compareBuilds_mirrored _ _

/-- A comparator mirrors its results if its rules do. -/
theorem compare_mirrored {comparator : Comparator} (h : comparator.EvenHanded) (v w : Version) :
    Mirrored (comparator.compare v w) (comparator.compare w v) := by
  -- A fallback and a base are comparators in turn, and are asked about other versions.
  induction comparator generalizing v w with
  | maven =>
    simp only [compare, Maven.compare_swap v w]
    exact .answers _
  | semver =>
    simp only [compare, Semver.compare_swap v w]
    exact .answers _
  | calendar fallback ih => exact calendar_mirrored (ih h) v w
  | rule compare => exact h v w
  | buildAware base layout ih => exact buildAware_mirrored (ih h) v w

end Comparator

namespace Scheme

theorem compare_mirrored {scheme : Scheme} (h : scheme.comparator.EvenHanded) (v w : Version) :
    Mirrored (scheme.compare v w) (scheme.compare w v) := by
  have haware : (Comparator.buildAware scheme.comparator scheme.layout).EvenHanded := h
  unfold compare precedence
  split
  next => exact Comparator.compare_mirrored haware v w
  next => exact Comparator.compare_mirrored h v w

theorem evenHanded_of_mem_builtins {scheme : Scheme} (h : scheme ∈ builtins) :
    scheme.comparator.EvenHanded := by
  simp only [builtins, List.mem_cons, List.not_mem_nil, or_false] at h
  rcases h with rfl | rfl | rfl | rfl | rfl | rfl <;> trivial

/-- A scheme keeps the comparator that it is made of. -/
theorem comparator_of_make {code : String} {comparator? : Option Comparator} {layout : Layout}
    {style : Style} {codec? : Option Codec} {scheme : Scheme}
    (h : make code comparator? layout style codec? = .ok scheme) :
    comparator? = some scheme.comparator := by
  unfold make at h
  split at h
  next => cases h
  next =>
    cases comparator? with
    | none => cases h
    | some comparator =>
      cases h
      rfl

theorem evenHanded_of_make {code : String} {family : Family} {layout : Layout} {style : Style}
    {codec? : Option Codec} {scheme : Scheme}
    (h : make code (some family.comparator) layout style codec? = .ok scheme) :
    scheme.comparator.EvenHanded := by
  rw [← Option.some.inj (comparator_of_make h)]
  cases family <;> trivial

/-- The schemes that are built in, and those that are made of a family with any layout and codec, are
antisymmetric and reflexive: the comparison the other way round has the negative answer, it fails if
and only if this one does, and no version differs from itself. -/
theorem compare_antisymmetric (scheme : Scheme)
    (hscheme : scheme ∈ builtins ∨ ∃ (code : String) (family : Family) (layout : Layout)
      (style : Style) (codec? : Option Codec),
        make code (some family.comparator) layout style codec? = .ok scheme)
    (v w : Version) :
    (∀ r, scheme.compare v w = .ok r → scheme.compare w v = .ok (-r)) ∧
      ((∃ fault, scheme.compare v w = .error fault) ↔
        ∃ fault, scheme.compare w v = .error fault) ∧
      ∀ r, scheme.compare v v = .ok r → r = 0 := by
  have heven : scheme.comparator.EvenHanded := by
    rcases hscheme with hbuiltin | ⟨code, family, layout, style, codec?, hmake⟩
    · exact evenHanded_of_mem_builtins hbuiltin
    · exact evenHanded_of_make hmake
  have hmirror := compare_mirrored heven v w
  refine ⟨fun r hr => hmirror.ok_neg hr, hmirror.fault_iff, fun r hr => ?_⟩
  exact (compare_mirrored heven v v).eq_zero hr

/-- A built-in scheme in which a number in the build part comes before a word. -/
theorem compare_antisymmetric_semverBuildOrdered :
    semverBuildOrdered ∈ builtins ∧
      semverBuildOrdered.compare (.ofString "1.0+7") (.ofString "1+x") = .ok (-1) ∧
      semverBuildOrdered.compare (.ofString "1+x") (.ofString "1.0+7") = .ok 1 := by
  have hmem : semverBuildOrdered ∈ builtins := by simp [builtins]
  have hless : semverBuildOrdered.compare (.ofString "1.0+7") (.ofString "1+x") = .ok (-1) := rfl
  exact ⟨hmem, hless, (compare_antisymmetric _ (.inl hmem) _ _).1 _ hless⟩

end Scheme

end VersionOrder
