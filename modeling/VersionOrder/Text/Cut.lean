import VersionOrder.Text.Blank

/-!
# Cutting a text at a delimiter

A delimiter is any text. `Text.cutAt?` finds its first occurrence and gives the parts on either
side; the three pieces put together are the text again.
-/

namespace VersionOrder

namespace Text

/-- The parts before and after the first occurrence of a delimiter, if there is one. -/
def cutAt? (delimiter : Text) : Text → Option (Text × Text)
  | [] => if delimiter.isEmpty then some ([], []) else none
  | c :: rest =>
    if delimiter.isPrefixOf (c :: rest) then
      some ([], (c :: rest).drop delimiter.length)
    else
      (cutAt? delimiter rest).map fun (before, after) => (c :: before, after)

/-- Whether a text occurs inside another; the empty text occurs in every text. -/
def occursIn (part whole : Text) : Bool :=
  (cutAt? part whole).isSome

/-- A text with every occurrence of one character replaced by another. -/
def replaceChar (old new : Char) (s : Text) : Text :=
  s.map fun c => if c = old then new else c

/-- The pieces of a text between single-character separators; there is always one piece. -/
def splitAt (separator : Char) : Text → List Text
  | [] => [[]]
  | c :: rest =>
    if c = separator then
      [] :: splitAt separator rest
    else
      match splitAt separator rest with
      | [] => [[c]]
      | piece :: pieces => (c :: piece) :: pieces

/-- Cutting loses nothing but the delimiter. -/
theorem append_of_cutAt? {delimiter s before after : Text}
    (h : cutAt? delimiter s = some (before, after)) : before ++ delimiter ++ after = s := by
  induction s generalizing before with
  | nil =>
    by_cases hd : delimiter = []
    · simp_all [cutAt?]
    · simp [cutAt?, hd] at h
  | cons c rest ih =>
    rw [cutAt?] at h
    split at h
    next hp =>
      obtain ⟨t, ht⟩ := List.isPrefixOf_iff_prefix.1 hp
      simp only [Option.some.injEq, Prod.mk.injEq] at h
      obtain ⟨rfl, rfl⟩ := h
      rw [← ht]
      simp
    next =>
      obtain ⟨⟨b, a⟩, hb, hab⟩ := Option.map_eq_some_iff.1 h
      simp only [Prod.mk.injEq] at hab
      obtain ⟨rfl, rfl⟩ := hab
      simpa using ih hb

end Text

end VersionOrder
