import VersionOrder.Proofs.CharClass
import VersionOrder.Proofs.Lexicographic

/-!
# Versions without letters

A text without letters and plus signs is a list of numbers. All families compare such versions by
their numbers in lexicographic order, the shorter list filled up with zeros. The calendar family looks
at three numbers first, and at none if one of them is too large; that changes nothing, as the numbers
it looks at are the first ones of the whole list.

## Main definitions

- `Text.Numeric`: the texts that are lists of numbers
- `Text.numbers`: the numbers of a text
- `compareNumbers`: the lexicographic comparison of two lists of numbers
-/

namespace VersionOrder

/-- The lexicographic comparison of two lists of numbers. -/
def lexicographic (left right : List Nat) : Int :=
  if left < right then -1 else if right < left then 1 else 0

/-- The lexicographic comparison of two lists of numbers, the shorter one filled up with zeros. -/
def compareNumbers (left right : List Nat) : Int :=
  let places := max left.length right.length
  lexicographic (left.rightpad places 0) (right.rightpad places 0)

section Numbers

theorem lexicographic_eq_threeWay (left right : List Nat) :
    lexicographic left right = threeWay left right := by
  rcases lt_trichotomy left right with h | rfl | h
  · rw [lexicographic, if_pos h, threeWay_of_lt h]
  · simp [lexicographic]
  · rw [lexicographic, if_neg (not_lt_of_gt h), if_pos h, threeWay_of_gt h]

/-- The numbers at the first place decide, and the rest where they tie. -/
theorem Calendar.compareParts_eq_head (left right : List Nat) :
    compareParts left right =
      if signum (left.head?.getD 0 : Nat) (right.head?.getD 0 : Nat) = 0 then
        compareParts left.tail right.tail
      else signum (left.head?.getD 0 : Nat) (right.head?.getD 0 : Nat) :=
  decisive_zipPadded (fun m n : Nat => signum m n) 0 rfl left right

theorem Calendar.compareParts_eq (places : Nat) {left right : List Nat}
    (hl : left.length ≤ places) (hr : right.length ≤ places) :
    compareParts left right = lexicographic (left.rightpad places 0) (right.rightpad places 0) := by
  have hkey : ∀ m n : Nat, True → True → signum m n = threeWay (id m) (id n) := by
    intro m n _ _
    simp only [signum, threeWay, Int.ofNat_lt, id]
  have hkeyed : compareParts left right =
      threeWay ((left.map id).rightpad places 0) ((right.map id).rightpad places 0) :=
    decisive_zipPadded_keyed hkey trivial hl hr (fun _ _ => trivial) fun _ _ => trivial
  rw [hkeyed, List.map_id, List.map_id, lexicographic_eq_threeWay]

theorem Calendar.compareParts_eq_compareNumbers (left right : List Nat) :
    compareParts left right = compareNumbers left right :=
  compareParts_eq _ (Nat.le_max_left _ _) (Nat.le_max_right _ _)

theorem rightpad_append_zeros {places zeros : Nat} {numbers : List Nat}
    (h : numbers.length + zeros ≤ places) :
    (numbers ++ List.replicate zeros 0).rightpad places 0 = numbers.rightpad places 0 := by
  have hzeros : zeros + (places - (numbers.length + zeros)) = places - numbers.length := by omega
  simp [List.rightpad, List.replicate_append_replicate, hzeros]

theorem exists_zeros (numbers : List Nat) :
    ∃ zeros, numbers.rdropWhile (· = 0) ++ List.replicate zeros 0 = numbers := by
  refine ⟨(numbers.rtakeWhile (· = 0)).length, ?_⟩
  have hzeros : numbers.rtakeWhile (· = 0) =
      List.replicate (numbers.rtakeWhile (· = 0)).length 0 := by
    refine List.eq_replicate_of_mem fun n hn => ?_
    simpa using List.mem_rtakeWhile_imp hn
  rw [← hzeros]
  exact List.rdropWhile_append_rtakeWhile

/-- Zeros at the end of either list do not matter. -/
theorem Calendar.compareParts_append_zeros (left right : List Nat) (k l : Nat) :
    compareParts (left ++ List.replicate k 0) (right ++ List.replicate l 0) =
      compareParts left right := by
  -- Both comparisons are the same one at any length that has room for all zeros.
  let places := (left.length + k) + (right.length + l)
  rw [compareParts_eq places, compareParts_eq places, rightpad_append_zeros, rightpad_append_zeros]
  all_goals simp only [List.length_append, List.length_replicate, places]; omega

theorem Calendar.compareParts_rdropWhile (left right : List Nat) :
    compareParts (left.rdropWhile (· = 0)) (right.rdropWhile (· = 0)) = compareParts left right := by
  obtain ⟨k, hl⟩ := exists_zeros left
  obtain ⟨l, hr⟩ := exists_zeros right
  conv_rhs => rw [← hl, ← hr]
  exact (compareParts_append_zeros _ _ k l).symm

/-- A difference among the first numbers decides. -/
theorem Calendar.compareParts_of_take {count : Nat} {left right : List Nat}
    (h : compareParts (left.take count) (right.take count) ≠ 0) :
    compareParts left right = compareParts (left.take count) (right.take count) := by
  induction count generalizing left right with
  | zero => exact absurd rfl h
  | succ count ih =>
    rw [compareParts_eq_head, compareParts_eq_head (left.take _)] at *
    have htail : ∀ numbers : List Nat, (numbers.take (count + 1)).tail = numbers.tail.take count := by
      intro numbers
      cases numbers <;> simp
    simp only [List.head?_take, Nat.succ_ne_zero, if_false, htail] at h ⊢
    split
    next htie =>
      rw [if_pos htie] at h
      exact ih h
    next => rfl

def Item.ofNat (n : Nat) : Item :=
  .numeric n

theorem Item.compareAll_map_ofNat (order : QualifierOrder) (left right : List Nat) :
    compareAll order (left.map ofNat) (right.map ofNat) = Calendar.compareParts left right := by
  have hleft : ∀ n : Nat, compare order (ofNat n) releaseMarker = signum n 0 := by
    intro n
    simp only [ofNat, compare, compareToMarker, signum]
    split <;> split <;> omega
  have hright : ∀ n : Nat, compare order releaseMarker (ofNat n) = signum 0 n := by
    intro n
    simp only [ofNat, compare, compareToMarker, signum]
    split <;> split <;> omega
  have hboth : ∀ m n : Nat, compare order (ofNat m) (ofNat n) = signum m n := fun _ _ => rfl
  rw [compareAll, Calendar.compareParts]
  congr 1
  induction left generalizing right with
  | nil => simp [zipPadded, hright]
  | cons m left ih =>
    cases right with
    | nil => simp [zipPadded, hleft]
    | cons n right => simp [zipPadded, ih, hboth]

theorem Item.trimEnd_map_ofNat (numbers : List Nat) :
    trimEnd (numbers.map ofNat) = (numbers.rdropWhile (· = 0)).map ofNat := by
  have hzero : isNegligible ∘ ofNat = fun n => decide (n = 0) := by
    funext n
    simp [isNegligible, ofNat]
  rw [trimEnd, ← List.map_reverse, List.dropWhile_map, ← List.map_reverse, hzero]
  rfl

end Numbers

namespace Text

/-- The numbers that the digit runs of a text write. -/
def numbers (s : Text) : List Nat :=
  (digitRuns s).map Numeral.value

/-- A text that writes nothing but numbers: it has no letter and no plus sign, and no digits in a row
past the limit. -/
structure Numeric (s : Text) : Prop where
  noLetter : ∀ c ∈ s, c.isAlpha = false
  noPlus : '+' ∉ s
  short : ∀ run, run <:+: s → (∀ c ∈ run, c.isDigit = true) → run.length ≤ Numeral.digitLimit

variable {s : Text}

theorem forall_mem_digitRuns {run : Text} (h : run ∈ digitRuns s) :
    run <:+: s ∧ ∀ c ∈ run, c.isDigit = true := by
  obtain ⟨r, hr, rfl⟩ := List.mem_map.1 h
  obtain ⟨hmem, hdigit⟩ := List.mem_filter.1 hr
  constructor
  · have hoccurs := List.infix_of_mem_flatten (List.mem_map_of_mem (f := Prod.snd) hmem)
    rwa [flatten_runs] at hoccurs
  · intro c hc
    exact ((forall_mem_runs _ _ r hmem).2 c hc).trans hdigit

theorem Numeric.length_le (hs : Numeric s) : ∀ run ∈ digitRuns s, run.length ≤ Numeral.digitLimit := by
  intro run hrun
  obtain ⟨hoccurs, hdigits⟩ := forall_mem_digitRuns hrun
  exact hs.short run hoccurs hdigits

theorem map_ofClassRun_words (h : ∀ c ∈ s, c.isAlpha = false) :
    (words CharClass.ofChar .other s).map Item.ofClassRun = (digitRuns s).map Item.ofDigits := by
  have hkey : ∀ r ∈ runs CharClass.ofChar s, r.1 ≠ .letter := by
    intro r hr hletter
    obtain ⟨c, hc, hclass⟩ := exists_key_of_mem_runs hr
    have halpha := h c hc
    by_cases hdigit : c.isDigit = true <;> simp [CharClass.ofChar, hdigit, halpha, hletter] at hclass
  -- Without letters the runs that are kept are the digit runs.
  have hwords : words CharClass.ofChar .other s =
      (runs CharClass.ofChar s).filter fun r => r.1 = .digit := by
    refine List.filter_congr fun r hr => ?_
    have hne := hkey r hr
    cases hclass : r.1 <;> simp_all
  rw [digitRuns_eq_classRuns, classRuns, hwords, List.map_map]
  refine List.map_congr_left fun r hr => ?_
  obtain ⟨-, hdigit⟩ := List.mem_filter.1 hr
  obtain ⟨k, run⟩ := r
  cases of_decide_eq_true hdigit
  rfl

theorem Numeric.trimEnd_words (hs : Numeric s) :
    Item.trimEnd ((words CharClass.ofChar .other s).map Item.ofClassRun) =
      Item.trimEnd ((numbers s).map Item.ofNat) := by
  rw [map_ofClassRun_words hs.noLetter, numbers, List.map_map]
  congr 1
  refine List.map_congr_left fun run hrun => ?_
  rw [Item.ofDigits, Numeral.read?, if_pos (hs.length_le run hrun)]
  rfl

end Text

/-- Whether build metadata is left out or not, the items of a numeric version are its numbers. -/
theorem Item.ofTokens_numeric {s : Text} (hs : s.Numeric) (leaveOutBuild : Bool) :
    ofTokens leaveOutBuild (tokenize s) = trimEnd ((Text.numbers s).map ofNat) := by
  cases leaveOutBuild with
  | false => rw [ofTokens_false_eq, hs.trimEnd_words]
  | true => rw [ofTokens_true_eq, Text.takeWhile_ne_eq_self hs.noPlus, hs.trimEnd_words]

theorem Item.compareAll_numeric (order : QualifierOrder) {s t : Text} (hs : s.Numeric)
    (ht : t.Numeric) (leaveOutBuild : Bool) :
    compareAll order (ofTokens leaveOutBuild (tokenize s)) (ofTokens leaveOutBuild (tokenize t)) =
      compareNumbers (Text.numbers s) (Text.numbers t) := by
  rw [ofTokens_numeric hs, ofTokens_numeric ht, trimEnd_map_ofNat, trimEnd_map_ofNat,
    compareAll_map_ofNat, Calendar.compareParts_rdropWhile, Calendar.compareParts_eq_compareNumbers]

/-- Readable runs are read as their numbers, unless one of the numbers is too large for a date. -/
theorem Calendar.readAll_cases {runs : List Text}
    (h : ∀ run ∈ runs, run.length ≤ Numeral.digitLimit) :
    readAll runs = .ok none ∨ readAll runs = .ok (some (runs.map Numeral.value)) := by
  induction runs with
  | nil => exact .inr rfl
  | cons run runs ih =>
    obtain ⟨hrun, hrest⟩ := List.forall_mem_cons.1 h
    rw [readAll, readNumber_eq_ok_iff.2 ⟨hrun, rfl⟩]
    by_cases hlarge : partLimit < Numeral.value run
    · exact .inl (by simp [hlarge, bind, Except.bind, pure, Except.pure])
    · rcases ih hrest with hnone | hsome
      · exact .inl (by simp [hlarge, hnone, bind, Except.bind, pure, Except.pure])
      · exact .inr (by simp [hlarge, hsome, bind, Except.bind, pure, Except.pure])

/-- The calendar parts of a numeric version are its first numbers, or there are none. -/
theorem Calendar.parts_numeric {s : Text} (hs : s.Numeric) :
    ∃ dateParts, parts ⟨s⟩ = .ok dateParts ∧
      (dateParts = [] ∨ dateParts = (Text.numbers s).take maxParts) := by
  have hshort : ∀ run ∈ (Text.digitRuns s).take maxParts, run.length ≤ Numeral.digitLimit :=
    fun run hrun => hs.length_le run (List.mem_of_mem_take hrun)
  rw [parts, digitRuns_eq, Text.numbers, ← List.map_take]
  rcases readAll_cases hshort with h | h
  · exact ⟨[], by rw [h]; rfl, .inl rfl⟩
  · exact ⟨_, by rw [h]; rfl, .inr rfl⟩

namespace Comparator

/-- The calendar family compares first numbers only where the whole lists would be decided by them. -/
theorem calver_numeric {s t : Text} (hs : s.Numeric) (ht : t.Numeric) :
    calver.compare ⟨s⟩ ⟨t⟩ = .ok (compareNumbers (Text.numbers s) (Text.numbers t)) := by
  have hfallback : maven.compare ⟨s⟩ ⟨t⟩ = .ok (compareNumbers (Text.numbers s) (Text.numbers t)) :=
    congrArg Except.ok (Item.compareAll_numeric _ hs ht false)
  obtain ⟨left, hl, hleft⟩ := Calendar.parts_numeric hs
  obtain ⟨right, hr, hright⟩ := Calendar.parts_numeric ht
  rw [calver, compare, hl, hr, hfallback]
  change (if left.isEmpty || right.isEmpty then _ else
    if Calendar.compareParts left right = 0 then _ else Except.ok _) = _
  split
  next => rfl
  next hthere =>
    simp only [Bool.or_eq_true, List.isEmpty_iff, not_or] at hthere
    split
    next => rfl
    next hdecided =>
      -- Both have parts, which are their first numbers, and these differ.
      rw [hleft.resolve_left hthere.1, hright.resolve_left hthere.2] at hdecided ⊢
      rw [← Calendar.compareParts_of_take hdecided, Calendar.compareParts_eq_compareNumbers]

/-- All families compare numeric versions by their numbers. -/
theorem compare_numeric {s t : Text} (hs : s.Numeric) (ht : t.Numeric) :
    ∀ family ∈ [maven, semver, calver],
      family.compare ⟨s⟩ ⟨t⟩ = .ok (compareNumbers (Text.numbers s) (Text.numbers t)) := by
  intro family hfamily
  simp only [List.mem_cons, List.not_mem_nil, or_false] at hfamily
  rcases hfamily with rfl | rfl | rfl
  · exact congrArg Except.ok (Item.compareAll_numeric _ hs ht false)
  · exact congrArg Except.ok (Item.compareAll_numeric _ hs ht true)
  · exact calver_numeric hs ht

/-- A number that is too large for a date ties, and a place behind the calendar parts decides. -/
theorem compare_numeric_largeNumber :
    Text.Numeric "2024.1.9223372036854775808".toList ∧
      Text.Numeric " 2024-01_9223372036854775808.0.7".toList ∧
      ∀ family ∈ [maven, semver, calver],
        family.compare (Version.ofString "2024.1.9223372036854775808")
          (Version.ofString " 2024-01_9223372036854775808.0.7") = .ok (-1) := by
  have hs : Text.Numeric "2024.1.9223372036854775808".toList :=
    ⟨by simp, by simp, fun _ hrun _ => hrun.length_le.trans (by decide)⟩
  have ht : Text.Numeric " 2024-01_9223372036854775808.0.7".toList :=
    ⟨by simp, by simp, fun _ hrun _ => hrun.length_le.trans (by decide)⟩
  have hanswer : compareNumbers (Text.numbers "2024.1.9223372036854775808".toList)
      (Text.numbers " 2024-01_9223372036854775808.0.7".toList) = -1 := by decide
  refine ⟨hs, ht, fun family hfamily => ?_⟩
  rw [← hanswer]
  exact compare_numeric hs ht family hfamily

end Comparator

end VersionOrder
