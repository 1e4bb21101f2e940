import VersionOrder.Build
import VersionOrder.Calendar
import VersionOrder.Layout
import VersionOrder.Maven
import VersionOrder.Semver

/-!
# Comparators

A comparator is one of the three families, a rule of the caller's own, or another comparator that
looks at version parts only. Results are negative, zero or positive; a comparison fails only where
a number has more digits than can be read, or where a caller's rule does.

## Main definitions

- `Comparator`: the comparators
- `Comparator.compare`: the comparison of two versions
- `Comparator.remarks`: what a comparison reports while it runs
-/

namespace VersionOrder

/-- A way to compare versions. -/
inductive Comparator where
  /-- The Maven-like order. -/
  | maven
  /-- The order of semantic versioning. -/
  | semver
  /-- Calendar parts first; the fallback decides ties and versions without such parts. -/
  | calendar (fallback : Comparator)
  /-- A rule of the caller's own. -/
  | rule (compare : Version → Version → Except Fault Int)
  /-- The base comparator on version parts, then the layout's policy on build parts. -/
  | buildAware (base : Comparator) (layout : Layout)

/-- Something that a comparison reports while it runs. -/
inductive Remark where
  /-- One of two versions has no calendar parts, so that the fallback decides. -/
  | noCalendarParts (left right : Version)
  deriving DecidableEq, Repr

/-- The wording of a remark. -/
def Remark.message : Remark → String
  | .noCalendarParts left right =>
    s!"No calendar parts in {quoted left.toString} or {quoted right.toString}, " ++
      "using Maven-like comparison"

namespace Comparator

/-- Calendar parts with the Maven-like order as fallback. -/
def calver : Comparator :=
  .calendar .maven

/-- What stands for a comparator where none is given: it refuses every comparison. -/
def missing : Comparator :=
  .rule fun _ _ => .error (.refusal .noComparator)

/-- The comparison of two versions. -/
def compare : Comparator → Version → Version → Except Fault Int
  | .maven, left, right => .ok (Maven.compare left right)
  | .semver, left, right => .ok (Semver.compare left right)
  | .calendar fallback, left, right => do
    let leftParts ← Calendar.parts left
    let rightParts ← Calendar.parts right
    if leftParts.isEmpty || rightParts.isEmpty then
      fallback.compare left right
    else
      let result := Calendar.compareParts leftParts rightParts
      if result = 0 then fallback.compare left right else return result
  | .rule compare, left, right => compare left right
  | .buildAware base layout, left, right => do
    let leftParts := layout.split left.text
    let rightParts := layout.split right.text
    let result ← base.compare ⟨leftParts.version⟩ ⟨rightParts.version⟩
    if result = 0 then
      match layout.effectiveComparison with
      | .ignore => return 0
      | .tokenCompare => compareBuilds leftParts.build rightParts.build
    else
      return result

/-- What a comparison of two versions reports while it runs. -/
def remarks : Comparator → Version → Version → List Remark
  | .maven, _, _ => []
  | .semver, _, _ => []
  | .calendar fallback, left, right =>
    match Calendar.parts left, Calendar.parts right with
    | .ok leftParts, .ok rightParts =>
      if leftParts.isEmpty || rightParts.isEmpty then
        .noCalendarParts left right :: fallback.remarks left right
      else if Calendar.compareParts leftParts rightParts = 0 then
        fallback.remarks left right
      else
        []
    | _, _ => []
  | .rule _, _, _ => []
  | .buildAware base layout, left, right =>
    base.remarks ⟨(layout.split left.text).version⟩ ⟨(layout.split right.text).version⟩

/-- The name of the kind of comparator. -/
def name : Comparator → String
  | .maven => "MavenLikeComparator"
  | .semver => "SemverLikeComparator"
  | .calendar _ => "CalverLikeComparator"
  | .rule _ => "function"
  | .buildAware _ _ => "BuildAwareComparator"

/-- The written form of a comparator; a caller's rule has none. -/
def display? : Comparator → Option String
  | .rule _ => none
  | .buildAware base layout =>
    base.display?.map fun inner =>
      s!"BuildAwareComparator({inner}, structure={quoted layout.code})"
  | family => some s!"{family.name}()"

/-- The layout that a comparator takes into account, if it sets build parts aside. -/
def layout? : Comparator → Option Layout
  | .buildAware _ layout => some layout
  | _ => none

/-- What a comparator is based on: the inner comparator if it sets build parts aside, else the
comparator itself. -/
def base : Comparator → Comparator
  | .buildAware inner _ => inner
  | comparator => comparator

end Comparator

end VersionOrder
