import VersionOrder.Proofs.Registration

/-!
# Lower case and blanks

Lower case maps no blank to anything but a blank, and nothing else to a blank, so that a text has
blanks around it exactly if its lower case has. A code in lower case is hence a key exactly if
there are no blanks around it.

## Main definitions

- `Text.blankRanges`: the code points of the blank characters
-/

namespace VersionOrder

namespace Text

variable {c x : Char} {s : Text}

/-- The code points of the blank characters, as ranges. -/
def blankRanges : List (Nat × Nat) :=
  [(9, 13), (28, 32), (0x85, 0x85), (0xA0, 0xA0), (0x1680, 0x1680), (0x2000, 0x200A),
    (0x2028, 0x2029), (0x202F, 0x202F), (0x205F, 0x205F), (0x3000, 0x3000)]

theorem isBlank_iff :
    isBlank c = true ↔ ∃ range ∈ blankRanges, range.1 ≤ c.toNat ∧ c.toNat ≤ range.2 := by
  simp only [isBlank, blankRanges, List.exists_mem_cons_iff, List.not_mem_nil, false_and,
    exists_false, or_false, Bool.or_eq_true, Bool.and_eq_true, decide_eq_true_eq, beq_iff_eq]
  omega

theorem toNat_ofNat_cases (code : Nat) :
    (Char.ofNat code).toNat = code ∨ (Char.ofNat code).toNat = 0 := by
  unfold Char.ofNat
  by_cases hvalid : code.isValidChar
  · rw [dif_pos hvalid]
    exact .inl rfl
  · rw [dif_neg hvalid]
    exact .inr rfl

/-- No run of the case table passes through a range of blanks, and none leads to one. -/
theorem lowerRuns_avoid_blanks : ∀ run ∈ lowerRuns, ∀ range ∈ blankRanges,
    (run.last < range.1 ∨ range.2 < run.first) ∧
      (run.last + run.shift < range.1 ∨ (range.2 : Int) < run.first + run.shift) := by
  decide +kernel

theorem isBlank_of_image? {run : CaseRun} (hrun : run ∈ lowerRuns) {n : Nat}
    (h : run.image? c.toNat = some n) : isBlank c = false ∧ isBlank (Char.ofNat n) = false := by
  unfold CaseRun.image? at h
  split at h
  next hmember =>
    obtain ⟨hfirst, hlast, -⟩ := hmember
    obtain rfl := Option.some.inj h
    constructor
    · rw [Bool.eq_false_iff, ne_eq, isBlank_iff]
      rintro ⟨range, hrange, hlow, hhigh⟩
      have havoid := (lowerRuns_avoid_blanks run hrun range hrange).1
      omega
    · rw [Bool.eq_false_iff, ne_eq, isBlank_iff]
      rintro ⟨range, hrange, hlow, hhigh⟩
      have hpositive : ∀ range ∈ blankRanges, 0 < range.1 := by decide
      have hrange_pos := hpositive range hrange
      have havoid := (lowerRuns_avoid_blanks run hrun range hrange).2
      -- A counterpart that is no character would stand for the null character.
      obtain hcode | hcode := toNat_ofNat_cases (Int.toNat (c.toNat + run.shift))
      · omega
      · omega
  next => cases h

theorem isBlank_imageUnder (c : Char) : isBlank (imageUnder lowerRuns c) = isBlank c := by
  unfold imageUnder
  split
  next n himage =>
    obtain ⟨run, hrun, hn⟩ := List.exists_of_findSome?_eq_some himage
    obtain ⟨hc, himage⟩ := isBlank_of_image? hrun hn
    rw [hc, himage]
  next => rfl

theorem isBlank_toLower (h : c.toNat < 0x80) : isBlank c.toLower = isBlank c := by
  have htable : ∀ n < 0x80, isBlank (Char.ofNat n).toLower = isBlank (Char.ofNat n) := by
    decide
  simpa using htable c.toNat h

/-- The lower case of a character is blank if the character is, and only then. -/
theorem isBlank_of_mem_lowerChar (h : x ∈ lowerChar c) : isBlank x = isBlank c := by
  unfold lowerChar at h
  split at h
  next hascii =>
    rw [List.mem_singleton.1 h]
    exact isBlank_toLower hascii
  next =>
    split at h
    next hdotted =>
      subst hdotted
      simp only [List.mem_cons, List.not_mem_nil, or_false] at h
      rcases h with rfl | rfl <;> decide
    next =>
      rw [List.mem_singleton.1 h]
      exact isBlank_imageUnder c

/-- A character becomes some characters in lower case, at least one, and whether they are blank is
told by the character. -/
theorem exists_lowerAfter_cons (before : Text) (c : Char) (rest : Text) :
    ∃ first more, lowerAfter before (c :: rest) =
        (first :: more) ++ lowerAfter (c :: before) rest ∧
      ∀ x ∈ first :: more, isBlank x = isBlank c := by
  by_cases hsigma : c = 'Σ'
  · subst hsigma
    refine ⟨_, [], rfl, ?_⟩
    simp only [List.mem_singleton, forall_eq]
    split <;> decide
  · obtain ⟨first, more, hpiece⟩ := List.exists_cons_of_ne_nil (lowerChar_ne_nil c)
    refine ⟨first, more, ?_, ?_⟩
    · rw [lowerAfter, if_neg hsigma, hpiece]
    · intro x hx
      exact isBlank_of_mem_lowerChar (hpiece ▸ hx)

theorem head?_lowerAfter (before s : Text) :
    (lowerAfter before s).head?.map isBlank = s.head?.map isBlank := by
  cases s with
  | nil => rfl
  | cons c rest =>
    obtain ⟨first, more, hlower, hblank⟩ := exists_lowerAfter_cons before c rest
    rw [hlower]
    show some (isBlank first) = some (isBlank c)
    rw [hblank first List.mem_cons_self]

theorem getLast?_lowerAfter (before s : Text) :
    (lowerAfter before s).getLast?.map isBlank = s.getLast?.map isBlank := by
  induction s generalizing before with
  | nil => rfl
  | cons c rest ih =>
    obtain ⟨first, more, hlower, hblank⟩ := exists_lowerAfter_cons before c rest
    -- Whatever follows decides; if nothing does, what the character becomes decides.
    have hlast : (first :: more).getLast?.map isBlank = some (isBlank c) := by
      rw [List.getLast?_eq_some_getLast (List.cons_ne_nil first more)]
      exact congrArg some (hblank _ (List.getLast_mem _))
    rw [hlower, List.getLast?_append, Option.map_or, ih, hlast]
    show _ = Option.map isBlank ([c] ++ rest).getLast?
    rw [List.getLast?_append, Option.map_or]
    rfl

/-- Lower case neither takes blanks away from around a text nor puts them there. -/
theorem trimmed_lower_iff : Trimmed (lower s) ↔ Trimmed s := by
  have hends : ∀ t : Text, Trimmed t ↔
      t.head?.map isBlank ≠ some true ∧ t.getLast?.map isBlank ≠ some true := by
    intro t
    simp [Trimmed]
  rw [hends, hends, lower, head?_lowerAfter, getLast?_lowerAfter]

end Text

namespace Scheme

variable {code other : String}

/-- A code in lower case is the key of a code exactly if there are no blanks around it and its own
key is the same. -/
theorem lower_eq_key_iff :
    Text.lower code.toList = key other ↔ Text.Trimmed code.toList ∧ key code = key other := by
  constructor
  · intro h
    have htrimmed : Text.Trimmed code.toList := by
      rw [← Text.trimmed_lower_iff, h, key, Text.trimmed_lower_iff]
      exact Text.trimmed_trim _
    refine ⟨htrimmed, ?_⟩
    rw [← h, key, Text.trim_eq_self_iff.2 htrimmed]
  · rintro ⟨htrimmed, hkey⟩
    rw [← hkey, key, Text.trim_eq_self_iff.2 htrimmed]

end Scheme

end VersionOrder
