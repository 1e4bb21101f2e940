import VersionOrder.Proofs.LowerCase

/-!
# Upper case and words in it

Blanks have no case. Most characters become one character in upper case and some become several, so a
place in the upper case of a text need not be the same place in the text. Words that no such expansion
fits into, not even at their ends, come from as many characters as they have: where the upper case of
a text begins with one of them, it can be cut off the text by its length.

## Main definitions

- `Text.Unexpanded`: the words in which no character that becomes several has a part
-/

namespace VersionOrder

namespace Text

variable {c : Char} {s word : Text}

theorem upper_cons (c : Char) (s : Text) : upper (c :: s) = upperChar c ++ upper s := rfl

/-- The upper case of a character is a single one, or one of the expansions. -/
theorem upperChar_cases (c : Char) :
    (∃ x, upperChar c = [x]) ∨
      ∃ entry ∈ upperExpansions, upperChar c = entry.2.map Char.ofNat := by
  unfold upperChar
  split
  next => exact .inl ⟨_, rfl⟩
  next =>
    split
    next codes hlookup =>
      obtain ⟨before, after, hsplit, -⟩ := List.lookup_eq_some_iff.1 hlookup
      exact .inr ⟨(c.toNat, codes), by simp [hsplit], rfl⟩
    next => exact .inl ⟨_, rfl⟩

theorem upperChar_ne_nil (c : Char) : upperChar c ≠ [] := by
  obtain ⟨x, hpiece⟩ | ⟨entry, hentry, hpiece⟩ := upperChar_cases c
  · simp [hpiece]
  · have hlong : ∀ entry ∈ upperExpansions, entry.2 ≠ [] := by decide
    simp [hpiece, hlong entry hentry]

theorem upper_eq_nil_iff : upper s = [] ↔ s = [] := by
  cases s with
  | nil => simp
  | cons c rest => simp [upper_cons, upperChar_ne_nil]

theorem upperChar_of_isBlank (h : isBlank c = true) : upperChar c = [c] := by
  have htable : ∀ range ∈ blankRanges, ∀ n ∈ List.range' range.1 (range.2 + 1 - range.1),
      upperChar (Char.ofNat n) = [Char.ofNat n] := by
    decide +kernel
  obtain ⟨range, hrange, hlow, hhigh⟩ := isBlank_iff.1 h
  have hmem : c.toNat ∈ List.range' range.1 (range.2 + 1 - range.1) :=
    List.mem_range'_1.2 ⟨hlow, by omega⟩
  simpa using htable range hrange c.toNat hmem

theorem upper_of_allBlank (h : allBlank s = true) : upper s = s := by
  induction s with
  | nil => rfl
  | cons c rest ih =>
    rw [allBlank, List.all_cons, Bool.and_eq_true] at h
    rw [upper_cons, upperChar_of_isBlank h.1, ih h.2, List.singleton_append]

/-- A word that shares no characters with an expansion: none lies in it, and none reaches over its
end. -/
def Unexpanded (word : Text) : Prop :=
  ∀ rest ∈ word.tails, rest ≠ [] → ∀ entry ∈ upperExpansions,
    ¬entry.2.map Char.ofNat <+: rest ∧ ¬rest <+: entry.2.map Char.ofNat

instance (word : Text) : Decidable (Unexpanded word) :=
  inferInstanceAs (Decidable (∀ rest ∈ word.tails, rest ≠ [] → ∀ entry ∈ upperExpansions,
    ¬entry.2.map Char.ofNat <+: rest ∧ ¬rest <+: entry.2.map Char.ofNat))

/-- Where the upper case of a text begins with such a word, the text begins with as many characters
whose upper case it is. -/
theorem exists_of_prefix_upper (hword : Unexpanded word) (h : word <+: upper s) :
    ∃ front back, s = front ++ back ∧ front.length = word.length ∧ upper front = word := by
  induction word generalizing s with
  | nil => exact ⟨[], s, rfl, rfl, rfl⟩
  | cons x word ih =>
    cases s with
    | nil => simp at h
    | cons c s =>
      rw [upper_cons] at h
      obtain ⟨y, hpiece⟩ | ⟨entry, hentry, hpiece⟩ := upperChar_cases c
      · rw [hpiece, List.singleton_append, List.cons_prefix_cons] at h
        obtain ⟨rfl, hrest⟩ := h
        have hshorter : Unexpanded word := by
          intro rest hmem
          exact hword rest (by simp [hmem])
        obtain ⟨front, back, rfl, hlength, hfront⟩ := ih hshorter hrest
        refine ⟨c :: front, back, rfl, by simp [hlength], ?_⟩
        rw [upper_cons, hpiece, hfront, List.singleton_append]
      · -- What a character expands to would have to agree with the word as far as both go.
        obtain ⟨hinside, hover⟩ := hword (x :: word) (by simp) (by simp) entry hentry
        rw [hpiece] at h
        exact (List.prefix_or_prefix_of_prefix (List.prefix_append _ _) h).elim
          (absurd · hinside) (absurd · hover)

end Text

end VersionOrder
