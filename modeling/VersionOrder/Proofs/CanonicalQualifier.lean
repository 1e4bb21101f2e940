import VersionOrder.Proofs.UpperCase
import VersionOrder.Qualifier

/-!
# The canonical text of a qualifier

Every text is read as a qualifier that has a canonical text, and the canonical text is read as a
qualifier of the same kind with the same canonical text. A snapshot is found in the upper case of a
text, while its label is cut off the text as it stands. The snapshot word is one that no character
with a longer upper case has a part in, so nothing is lost.

## Main definitions

- `QualifierKind.MarksSnapshot`: the texts that begin with the snapshot word in upper case
- `Qualifier.canonical`: the canonical text of the qualifier that a text is read as
-/

namespace VersionOrder

namespace QualifierKind

variable {s : Text}

/-- In upper case, the text is the snapshot word, or begins with the word and a dot. -/
def MarksSnapshot (s : Text) : Prop :=
  Text.upper s = snapshotText ∨ snapshotText ++ ['.'] <+: Text.upper s

instance (s : Text) : Decidable (MarksSnapshot s) :=
  inferInstanceAs (Decidable (_ ∨ _))

theorem detect_of_allBlank (h : Text.allBlank s = true) : detect (some s) = .release :=
  if_pos h

/-- Blanks have no case, so there is no snapshot among them. -/
theorem MarksSnapshot.not_allBlank (h : MarksSnapshot s) : Text.allBlank s = false := by
  refine Bool.eq_false_iff.2 fun hblank => ?_
  have hletter : 'S' ∈ Text.upper s := by
    rcases h with hword | hbegins
    · rw [hword]
      decide
    · exact hbegins.subset (by decide)
  rw [Text.upper_of_allBlank hblank] at hletter
  exact absurd (List.all_eq_true.1 hblank 'S' hletter) (by decide)

theorem detect_of_not_allBlank (h : Text.allBlank s = false) :
    detect (some s) = if MarksSnapshot s then .snapshot else .preRelease := by
  simp only [detect, Option.getD_some, h, Bool.false_eq_true, if_false, Bool.or_eq_true,
    decide_eq_true_eq, List.isPrefixOf_iff_prefix]
  rfl

theorem detect_eq_snapshot_iff : detect (some s) = .snapshot ↔ MarksSnapshot s := by
  cases hblank : Text.allBlank s with
  | true =>
    rw [detect_of_allBlank hblank]
    refine iff_of_false (by simp) fun h => ?_
    rw [h.not_allBlank] at hblank
    cases hblank
  | false =>
    rw [detect_of_not_allBlank hblank]
    split <;> simp [*]

/-- Behind a dot there is nothing that makes or unmakes a snapshot. -/
theorem marksSnapshot_append_dot (s rest : Text) :
    MarksSnapshot (s ++ '.' :: rest) ↔ MarksSnapshot s := by
  have hdot : '.' ∉ snapshotText := by decide
  have hupper : Text.upper (s ++ '.' :: rest) = Text.upper s ++ '.' :: Text.upper rest :=
    Text.upper_append s _
  rw [MarksSnapshot, MarksSnapshot, hupper]
  constructor
  · rintro (hword | ⟨more, hmore⟩)
    · exact absurd (hword ▸ by simp) hdot
    · -- Two ways to cut one text at a dot: the word ends where the text does, or before.
      rw [List.append_assoc, List.append_eq_append_iff] at hmore
      obtain ⟨between, htext, hrest⟩ | ⟨between, hword, hrest⟩ := hmore
      · cases between with
        | nil => exact .inl (by simpa using htext)
        | cons c between =>
          obtain ⟨rfl, -⟩ := List.cons_eq_cons.1 hrest
          exact .inr ⟨between, by simp [htext]⟩
      · cases between with
        | nil => exact .inl (by simpa using hword.symm)
        | cons c between =>
          obtain ⟨rfl, -⟩ := List.cons_eq_cons.1 hrest
          exact absurd (hword ▸ by simp) hdot
  · rintro (hword | hbegins)
    · exact .inr ⟨Text.upper rest, by simp [hword]⟩
    · exact .inr (hbegins.trans (List.prefix_append _ _))

theorem detect_append_dot (s rest : Text) :
    detect (some (s ++ '.' :: rest)) =
      if detect (some s) = .snapshot then .snapshot else .preRelease := by
  have hblank : Text.allBlank (s ++ '.' :: rest) = false := by
    have hdot : Text.isBlank '.' = false := by decide
    simp [Text.allBlank, hdot]
  simp only [detect_of_not_allBlank hblank, marksSnapshot_append_dot, detect_eq_snapshot_iff]

end QualifierKind

namespace Qualifier

open QualifierKind

variable {s : Text}

@[simp]
theorem kind_parse (text? : Option Text) : (parse text?).kind = detect text? := by
  unfold parse
  split <;> simp [*]

/-- The label of a snapshot: what follows the word and one more character. -/
def snapshotLabel (s : Text) : Text :=
  s.drop (snapshotText.length + 1)

theorem parse_of_snapshot (h : detect (some s) = .snapshot) :
    parse (some s) = ⟨.snapshot,
      if (snapshotLabel s).isEmpty then none else some (snapshotLabel s)⟩ := by
  rw [parse, h]
  rfl

/-- The canonical text of the qualifier that a text is read as. -/
def canonical (s : Text) : Text :=
  match detect (some s) with
  | .release => []
  | .snapshot =>
    if Text.allBlank (snapshotLabel s) then snapshotText
    else snapshotText ++ '.' :: snapshotLabel s
  | _ => s

/-- What is read can be written. -/
theorem text_parse (s : Text) : (parse (some s)).text = .ok (canonical s) := by
  cases hblank : Text.allBlank s with
  | true =>
    have hkind := detect_of_allBlank hblank
    simp [text, parse, canonical, hkind, QualifierKind.format, Text.allBlank]
  | false =>
    have hkind := detect_of_not_allBlank hblank
    by_cases hmarks : MarksSnapshot s
    · rw [if_pos hmarks] at hkind
      rw [parse_of_snapshot hkind, canonical, hkind]
      cases hlabel : snapshotLabel s with
      | nil => rfl
      | cons c label => simp [text, QualifierKind.format, apply_ite]
    · rw [if_neg hmarks] at hkind
      simp [text, parse, canonical, hkind, QualifierKind.format, hblank]

theorem canonical_snapshot (label : Text) :
    detect (some (snapshotText ++ '.' :: label)) = .snapshot ∧
      snapshotLabel (snapshotText ++ '.' :: label) = label := by
  constructor
  · rw [detect_append_dot, if_pos (by decide)]
  · rfl

/-- The canonical text is read as the kind that it was written for, and is written again. -/
theorem canonical_canonical (s : Text) :
    detect (some (canonical s)) = detect (some s) ∧ canonical (canonical s) = canonical s := by
  cases hkind : detect (some s) with
  | release =>
    have hnone : canonical s = [] := by rw [canonical, hkind]
    rw [hnone]
    exact ⟨rfl, rfl⟩
  | snapshot =>
    by_cases hlabel : Text.allBlank (snapshotLabel s) = true
    · have hword : canonical s = snapshotText := by
        rw [canonical, hkind]
        exact if_pos hlabel
      rw [hword]
      exact ⟨by decide, by decide⟩
    · have hlabelled : canonical s = snapshotText ++ '.' :: snapshotLabel s := by
        rw [canonical, hkind]
        exact if_neg hlabel
      obtain ⟨hsnapshot, hsame⟩ := canonical_snapshot (snapshotLabel s)
      rw [hlabelled, canonical, hsnapshot, hsame]
      exact ⟨rfl, if_neg hlabel⟩
  | _ =>
    have hself : canonical s = s := by rw [canonical, hkind]
    rw [hself]
    exact ⟨hkind, hself⟩

/-- No character with a longer upper case has a part in the snapshot word before a dot, so the label
is cut off behind them. -/
theorem exists_marker_of_prefix (h : snapshotText ++ ['.'] <+: Text.upper s) :
    ∃ marker, s = marker ++ snapshotLabel s ∧ Text.upper marker = snapshotText ++ ['.'] := by
  have hword : Text.Unexpanded (snapshotText ++ ['.']) := by decide +kernel
  obtain ⟨marker, label, rfl, hlength, hmarker⟩ := Text.exists_of_prefix_upper hword h
  have hlabel : snapshotLabel (marker ++ label) = label := List.drop_left' hlength
  exact ⟨marker, by rw [hlabel], hmarker⟩

/-- A text that is the snapshot word alone leaves nothing for a label. -/
theorem snapshotLabel_of_upper_eq (h : Text.upper s = snapshotText) : snapshotLabel s = [] := by
  have hdotted : Text.upper (s ++ ['.']) = snapshotText ++ ['.'] := by
    rw [Text.upper_append, h]
    rfl
  have hbegins : snapshotText ++ ['.'] <+: Text.upper (s ++ ['.']) := by rw [hdotted]
  obtain ⟨marker, hs, hmarker⟩ := exists_marker_of_prefix hbegins
  have hrest : snapshotLabel (s ++ ['.']) = [] := by
    rw [hs, Text.upper_append, hmarker, List.append_right_eq_self] at hdotted
    exact Text.upper_eq_nil_iff.1 hdotted
  rw [snapshotLabel, List.drop_eq_nil_iff] at hrest ⊢
  rw [List.length_append] at hrest
  omega

/-- The qualifier that a text is read as can be written, and the text that is written is read as a
qualifier of the same kind, which is written in the same way. The label of a snapshot is all of the
text that follows what becomes the snapshot word and a dot in upper case. -/
theorem parse_canonical (s : Text) :
    (∃ canonical, (parse (some s)).text = .ok canonical ∧
      (parse (some canonical)).text = .ok canonical ∧
      detect (some canonical) = detect (some s)) ∧
    ∀ label, parse (some s) = ⟨.snapshot, some label⟩ →
      Text.upper s = snapshotText ++ '.' :: Text.upper label ∧
        ∃ marker, s = marker ++ label ∧ Text.upper marker = snapshotText ++ ['.'] := by
  constructor
  · obtain ⟨hkind, hsame⟩ := canonical_canonical s
    exact ⟨canonical s, text_parse s, by rw [text_parse, hsame], hkind⟩
  · intro label hparse
    have hkind : detect (some s) = .snapshot := by rw [← kind_parse, hparse]
    rw [parse_of_snapshot hkind] at hparse
    split at hparse
    next => cases hparse
    next hlabel =>
      cases hparse
      -- The word alone has no label, so there is a dot behind it.
      rcases detect_eq_snapshot_iff.1 hkind with hword | hbegins
      · simp [snapshotLabel_of_upper_eq hword] at hlabel
      · obtain ⟨marker, hs, hmarker⟩ := exists_marker_of_prefix hbegins
        refine ⟨?_, marker, hs, hmarker⟩
        calc Text.upper s = Text.upper (marker ++ snapshotLabel s) := congrArg Text.upper hs
          _ = (snapshotText ++ ['.']) ++ Text.upper (snapshotLabel s) := by
            rw [Text.upper_append, hmarker]
          _ = snapshotText ++ '.' :: Text.upper (snapshotLabel s) := List.append_assoc _ _ _

/-- A long s has a part in the word, and a sharp s in the label, which stays whole. -/
theorem parse_canonical_sharpS :
    parse (some "ſnapShot.weiß".toList) = ⟨.snapshot, some "weiß".toList⟩ ∧
      Text.upper "ſnapShot.weiß".toList = snapshotText ++ '.' :: Text.upper "weiß".toList ∧
        ∃ marker, "ſnapShot.weiß".toList = marker ++ "weiß".toList ∧
          Text.upper marker = snapshotText ++ ['.'] := by
  have hparse : parse (some "ſnapShot.weiß".toList) = ⟨.snapshot, some "weiß".toList⟩ := by
    decide +kernel
  exact ⟨hparse, (parse_canonical _).2 _ hparse⟩

end Qualifier

end VersionOrder
