import VersionOrder.Proofs.NumericVersions

/-!
# Calendar parts as the first digit runs

Calendar parts are collected token by token. What comes of it depends on the first three digit runs of
the text alone: they are read from left to right, and the first one that is too long or writes too large
a number decides. Where two versions have parts that differ, the parts decide, whatever the fallback.

## Main definitions

- `Calendar.dateOf`: the date that digit runs write
-/

namespace VersionOrder

namespace Calendar

instance : DecidablePred Fits :=
  fun run => inferInstanceAs (Decidable (run.length ≤ Numeral.digitLimit ∧ Numeral.value run ≤ partLimit))

/-- The date that some digit runs write. The first run that does not fit decides: it is refused if it is
too long, and leaves no date if its number is too large. -/
def dateOf (runs : List Text) : Except Fault (List Nat) :=
  match runs.find? fun run => ¬Fits run with
  | none => .ok (runs.map Numeral.value)
  | some run =>
    if Numeral.digitLimit < run.length then .error (.refusal (.tooManyDigits run.length)) else .ok []

/-- Runs that fit are read, and what follows them decides whether there are numbers. -/
theorem readAll_append {before : List Text} (h : ∀ run ∈ before, Fits run) (rest : List Text) :
    readAll (before ++ rest) =
      (readAll rest).map (Option.map (before.map Numeral.value ++ ·)) := by
  induction before with
  | nil =>
    rw [List.nil_append]
    cases readAll rest with
    | error fault => rfl
    | ok numbers? => cases numbers? <;> rfl
  | cons run before ih =>
    obtain ⟨⟨hlength, hvalue⟩, hbefore⟩ := List.forall_mem_cons.1 h
    rw [List.cons_append, readAll, readNumber_eq_ok_iff.2 ⟨hlength, rfl⟩, ih hbefore]
    show (if partLimit < Numeral.value run then _ else _) = _
    rw [if_neg (Nat.not_lt.2 hvalue)]
    cases readAll rest with
    | error fault => rfl
    | ok numbers? => cases numbers? <;> rfl

theorem readAll_of_long {run : Text} (h : Numeral.digitLimit < run.length) (rest : List Text) :
    readAll (run :: rest) = .error (.refusal (.tooManyDigits run.length)) := by
  have hread : readNumber run = .error (.refusal (.tooManyDigits run.length)) := by
    rw [readNumber, Numeral.read?, if_neg (Nat.not_le.2 h)]
  rw [readAll, hread]
  rfl

theorem readAll_of_large {run : Text} (hlength : run.length ≤ Numeral.digitLimit)
    (h : partLimit < Numeral.value run) (rest : List Text) : readAll (run :: rest) = .ok none := by
  rw [readAll, readNumber_eq_ok_iff.2 ⟨hlength, rfl⟩]
  show (if partLimit < Numeral.value run then _ else _) = _
  rw [if_pos h]
  rfl

theorem readAll_eq_dateOf (runs : List Text) :
    (do return (← readAll runs).getD []) = dateOf runs := by
  rw [dateOf]
  cases hfind : runs.find? fun run => ¬Fits run with
  | none =>
    have hfits : ∀ run ∈ runs, Fits run := by simpa using hfind
    have hread := readAll_append hfits []
    rw [List.append_nil] at hread
    rw [hread]
    simp [readAll, Except.map, bind, Except.bind, pure, Except.pure]
  | some run =>
    obtain ⟨hrun, before, after, rfl, hbefore⟩ := List.find?_eq_some_iff_append.1 hfind
    have hfits : ∀ r ∈ before, Fits r := by simpa using hbefore
    rw [readAll_append hfits]
    by_cases hlong : Numeral.digitLimit < run.length
    · rw [readAll_of_long hlong]
      simp [hlong, Except.map, bind, Except.bind]
    · -- A run that is not too long and does not fit writes too large a number.
      have hlength := Nat.not_lt.1 hlong
      have hlarge : partLimit < Numeral.value run := by
        refine Nat.not_le.1 fun hvalue => ?_
        exact of_decide_eq_true hrun ⟨hlength, hvalue⟩
      rw [readAll_of_large hlength hlarge]
      simp [hlong, Except.map, bind, Except.bind, pure, Except.pure]

theorem parts_eq_dateOf (s : Text) : parts ⟨s⟩ = dateOf ((Text.digitRuns s).take maxParts) := by
  rw [parts, digitRuns_eq, readAll_eq_dateOf]

theorem length_le_of_parts {v : Version} {found : List Nat} (h : parts v = .ok found) :
    found.length ≤ maxParts := by
  have hdate : dateOf ((Text.digitRuns v.text).take maxParts) = .ok found :=
    (parts_eq_dateOf v.text).symm.trans h
  rw [dateOf] at hdate
  split at hdate
  next =>
    obtain rfl := Except.ok.inj hdate
    rw [List.length_map, List.length_take]
    exact Nat.min_le_left _ _
  next =>
    split at hdate
    next => cases hdate
    next =>
      obtain rfl := Except.ok.inj hdate
      exact Nat.zero_le _

end Calendar

namespace Comparator

variable {fallback : Comparator} {v w : Version} {left right : List Nat}

theorem calendar_compare_of_none (hv : Calendar.parts v = .ok left) (hw : Calendar.parts w = .ok right)
    (h : left = [] ∨ right = []) : (calendar fallback).compare v w = fallback.compare v w := by
  have hnone : (left.isEmpty || right.isEmpty) = true := by
    rcases h with rfl | rfl <;> simp
  rw [compare, hv, hw]
  show (if (left.isEmpty || right.isEmpty) = true then _ else _) = _
  rw [if_pos hnone]

/-- Between two versions with calendar parts the fallback is asked only where the parts tie. -/
theorem calendar_compare_of_parts (hv : Calendar.parts v = .ok left) (hw : Calendar.parts w = .ok right)
    (hleft : left ≠ []) (hright : right ≠ []) :
    (calendar fallback).compare v w =
      if Calendar.compareParts left right = 0 then fallback.compare v w
      else .ok (Calendar.compareParts left right) := by
  have hboth : (left.isEmpty || right.isEmpty) = false := by simp [hleft, hright]
  rw [compare, hv, hw]
  show (if (left.isEmpty || right.isEmpty) = true then _ else _) = _
  rw [hboth, if_neg Bool.false_ne_true]
  rfl

/-- The calendar parts of a version are what its first three digit runs write, and two versions with
parts that differ, filled up with zeros, are compared by these parts in lexicographic order. -/
theorem calendar_first_runs_decide :
    (∀ s, Calendar.parts ⟨s⟩ = Calendar.dateOf ((Text.digitRuns s).take 3)) ∧
      ∀ v w left right, Calendar.parts v = .ok left → Calendar.parts w = .ok right →
        left ≠ [] → right ≠ [] → left.rightpad 3 0 ≠ right.rightpad 3 0 →
        ∀ fallback : Comparator, (calendar fallback).compare v w =
          .ok (lexicographic (left.rightpad 3 0) (right.rightpad 3 0)) := by
  refine ⟨Calendar.parts_eq_dateOf, ?_⟩
  intro v w left right hv hw hleft hright hne fallback
  have hanswer : Calendar.compareParts left right =
      lexicographic (left.rightpad 3 0) (right.rightpad 3 0) :=
    Calendar.compareParts_eq 3 (Calendar.length_le_of_parts hv) (Calendar.length_le_of_parts hw)
  have hdecided : Calendar.compareParts left right ≠ 0 := by
    rw [hanswer, lexicographic_eq_threeWay, ne_eq, threeWay_eq_zero_iff]
    exact hne
  rw [calendar_compare_of_parts hv hw hleft hright, if_neg hdecided, hanswer]

/-- A missing part against a number that touches a qualifier, with too large a number behind it; the
fallback refuses every comparison. -/
theorem calendar_first_runs_decide_patch :
    Calendar.parts (Version.ofString " 2024.01-rc") = .ok [2024, 1] ∧
      Calendar.parts (Version.ofString "v2024_1b3+99999999999999999999") = .ok [2024, 1, 3] ∧
      (calendar missing).compare (Version.ofString " 2024.01-rc")
        (Version.ofString "v2024_1b3+99999999999999999999") = .ok (-1) := by
  have hv : Calendar.parts (Version.ofString " 2024.01-rc") = .ok [2024, 1] := by rfl
  have hw : Calendar.parts (Version.ofString "v2024_1b3+99999999999999999999") = .ok [2024, 1, 3] := by
    rfl
  obtain ⟨-, hdecide⟩ := calendar_first_runs_decide
  have hanswer : lexicographic ([2024, 1].rightpad 3 0) ([2024, 1, 3].rightpad 3 0) = -1 := by decide
  refine ⟨hv, hw, ?_⟩
  rw [hdecide _ _ _ _ hv hw (by simp) (by simp) (by decide) missing, hanswer]

end Comparator

end VersionOrder
