import VersionOrder.Comparator
import VersionOrder.Proofs.Suffix

/-!
# The first number that differs

Two version texts may begin alike and go on with a dot and a number each. If the numbers differ, they
decide, whatever follows them. The smaller one may be a zero, and zeros at the end of a version are
dropped, together with those in front of them: then the shorter version has ended at some earlier place,
and the end of a version stands where a zero does.
-/

namespace VersionOrder

open Semver (IsNumber)

theorem Text.takeWhile_append_number {p digits : Text} (hp : '+' ∉ p) (h : IsNumber digits) (s : Text) :
    (p ++ '.' :: (digits ++ s)).takeWhile (fun c => c ≠ '+') =
      p ++ '.' :: (digits ++ s.takeWhile fun c => c ≠ '+') := by
  have hdigits : '+' ∉ digits := fun hplus => absurd (h.2 '+' hplus) (by decide)
  rw [takeWhile_append_of_notMem hp, List.takeWhile_cons_of_pos (by decide),
    takeWhile_append_of_notMem hdigits]

namespace Item

section Trimming

theorem trimEnd_append (items rest : List Item) :
    trimEnd (items ++ rest) = if trimEnd rest = [] then trimEnd items else items ++ trimEnd rest := by
  have hnil : (rest.reverse.dropWhile isNegligible).isEmpty = true ↔ trimEnd rest = [] := by
    rw [List.isEmpty_iff, trimEnd, List.reverse_eq_nil_iff]
  rw [trimEnd, List.reverse_append, List.dropWhile_append]
  by_cases h : trimEnd rest = []
  · rw [if_pos (hnil.2 h), if_pos h, trimEnd]
  · rw [if_neg (mt hnil.1 h), if_neg h, List.reverse_append, List.reverse_reverse, trimEnd]

theorem trimEnd_cons (item : Item) (rest : List Item) :
    trimEnd (item :: rest) =
      if trimEnd rest = [] ∧ isNegligible item = true then [] else item :: trimEnd rest := by
  rw [← List.singleton_append, trimEnd_append]
  by_cases hrest : trimEnd rest = []
  · cases hitem : isNegligible item <;> simp [trimEnd, hitem]
  · simp [hrest]

/-- What says something keeps everything in front of it. -/
theorem trimEnd_append_cons {item : Item} (h : isNegligible item = false) (items rest : List Item) :
    trimEnd (items ++ item :: rest) = items ++ item :: trimEnd rest := by
  have hcons : trimEnd (item :: rest) = item :: trimEnd rest := by
    rw [trimEnd_cons, if_neg (by simp [h])]
  rw [trimEnd_append, hcons, if_neg (List.cons_ne_nil _ _)]

end Trimming

section Numbers

variable {order : QualifierOrder} {m n : Int}

theorem compareAll_cons_numeric (h : m < n) (left right : List Item) :
    compareAll order (.numeric m :: left) (.numeric n :: right) = -1 := by
  simp [compareAll, zipPadded, decisive, compare, signum_of_lt h]

/-- A version that has ended comes before a number, if there is nothing but zeros before that. -/
theorem compareAll_nil_numeric (h : 0 < n) {zeros : List Item}
    (hzeros : ∀ item ∈ zeros, isNegligible item = true) (rest : List Item) :
    compareAll order [] (zeros ++ .numeric n :: rest) = -1 := by
  induction zeros with
  | nil =>
    rw [List.nil_append, compareAll_eq_head]
    have hn : n ≠ 0 := by omega
    simp [compare, compareToMarker, hn]
  | cons item zeros ih =>
    obtain ⟨hitem, hzeros⟩ := List.forall_mem_cons.1 hzeros
    have htie : compare order releaseMarker item = 0 := by
      cases item with
      | numeric k =>
        have hk : k = 0 := of_decide_eq_true hitem
        simp [compare, compareToMarker, hk]
      | qualifier q => cases hitem
      | releaseMarker => rfl
    have htail : compareAll order [] (item :: (zeros ++ .numeric n :: rest)) =
        compareAll order [] (zeros ++ .numeric n :: rest) := compareAll_of_tie htie
    exact htail.trans (ih hzeros)

/-- Items that begin alike are compared by the first numbers that differ, trimmed or not. -/
theorem compareAll_trimEnd_numeric (hself : ∀ q, order.compare q q = 0) (hm : 0 ≤ m) (h : m < n)
    (front left right : List Item) :
    compareAll order (trimEnd (front ++ .numeric m :: left))
      (trimEnd (front ++ .numeric n :: right)) = -1 := by
  have hn : isNegligible (.numeric n) = false := by
    simp only [isNegligible, decide_eq_false_iff_not]
    omega
  rw [trimEnd_append_cons hn, trimEnd_append, trimEnd_cons]
  by_cases hends : trimEnd left = [] ∧ isNegligible (.numeric m) = true
  · -- The smaller number is dropped with all that follows it, and the zeros in front of it are, too.
    obtain ⟨zeros, hfront, hzeros⟩ := exists_trimEnd_append front
    have hcut : front ++ .numeric n :: trimEnd right =
        trimEnd front ++ (zeros ++ .numeric n :: trimEnd right) := by
      rw [← List.append_assoc, hfront]
    have hrest := compareAll_append_left hself (trimEnd front) []
      (zeros ++ .numeric n :: trimEnd right)
    rw [List.append_nil] at hrest
    rw [if_pos hends, if_pos rfl, hcut, hrest]
    exact compareAll_nil_numeric (by omega) hzeros _
  · rw [if_neg hends, if_neg (List.cons_ne_nil _ _), compareAll_append_left hself]
    exact compareAll_cons_numeric h _ _

end Numbers

section Scan

variable {digits s : Text}

theorem scan_number (h : IsNumber digits) (hlength : digits.length ≤ Numeral.digitLimit) :
    scan digits = [.numeric (Numeral.value digits)] := by
  have hclass : ∀ c ∈ digits, CharClass.ofChar c = .digit := fun c hc =>
    CharClass.ofChar_eq_digit_iff.2 (h.2 c hc)
  rw [← map_ofClassRun_words, Text.words, Text.runs_of_forall h.1 hclass]
  show [ofDigits digits] = _
  rw [ofDigits, Numeral.read?, if_pos hlength]
  rfl

/-- A run of digits that goes on to neither side is one number. -/
theorem scan_append_number (p : Text) (h : IsNumber digits)
    (hlength : digits.length ≤ Numeral.digitLimit) (hs : ∀ c ∈ s.head?, c.isDigit = false) :
    scan (p ++ '.' :: (digits ++ s)) = scan p ++ .numeric (Numeral.value digits) :: scan s := by
  have hdot : Text.IsGap ['.'] := ⟨by simp, List.forall_mem_singleton.2 rfl⟩
  have hedge : ∀ c ∈ digits.getLast?, ∀ d ∈ s.head?, CharClass.ofChar c ≠ CharClass.ofChar d := by
    intro c hc d hd hclass
    have hdigit := h.2 c (List.mem_of_mem_getLast? hc)
    rw [CharClass.ofChar_eq_digit_iff.2 hdigit] at hclass
    have hother := hs d hd
    rw [CharClass.ofChar_eq_digit_iff.1 hclass.symm] at hother
    cases hother
  show scan (p ++ (['.'] ++ (digits ++ s))) = _
  rw [scan_append_gap p hdot, scan_append hedge, scan_number h hlength]
  rfl

end Scan

end Item

namespace Comparator

/-- Behind a common beginning and a dot, numbers decide by their size, whatever follows them: leading
zeros, letters next to a number and the lengths of the versions do not matter. Under semantic versioning
the numbers must not belong to the build metadata. -/
theorem compare_first_number (p : Text) {m n s t : Text} (hm : IsNumber m) (hn : IsNumber n)
    (hmlength : m.length ≤ Numeral.digitLimit) (hnlength : n.length ≤ Numeral.digitLimit)
    (hlt : Numeral.value m < Numeral.value n) (hs : ∀ c ∈ s.head?, c.isDigit = false)
    (ht : ∀ c ∈ t.head?, c.isDigit = false) :
    maven.compare ⟨p ++ '.' :: (m ++ s)⟩ ⟨p ++ '.' :: (n ++ t)⟩ = .ok (-1) ∧
      ('+' ∉ p → semver.compare ⟨p ++ '.' :: (m ++ s)⟩ ⟨p ++ '.' :: (n ++ t)⟩ = .ok (-1)) := by
  have hpos : (0 : Int) ≤ Numeral.value m := Int.natCast_nonneg _
  have hless : (Numeral.value m : Int) < Numeral.value n := Int.ofNat_lt.2 hlt
  constructor
  · have hself : ∀ q, Maven.order.compare q q = 0 := fun q =>
      Maven.signPreorderOn_compareQualifiers.self (a := q) trivial
    show Except.ok (Maven.compare _ _) = _
    rw [Maven.compare, Maven.items_eq, Maven.items_eq, Item.scan_append_number p hm hmlength hs,
      Item.scan_append_number p hn hnlength ht, Item.compareAll_trimEnd_numeric hself hpos hless]
  · intro hp
    have hhead : ∀ {tail : Text}, (∀ c ∈ tail.head?, c.isDigit = false) →
        ∀ c ∈ (tail.takeWhile fun c => c ≠ '+').head?, c.isDigit = false := by
      intro tail htail c hc
      obtain ⟨rest, hrest⟩ := List.takeWhile_prefix (l := tail) fun c => c ≠ '+'
      refine htail c ?_
      rw [← hrest]
      exact List.mem_head?_append_of_mem_head? hc
    show Except.ok (Semver.compare _ _) = _
    rw [Semver.compare, Semver.items_eq, Semver.items_eq, Text.takeWhile_append_number hp hm,
      Text.takeWhile_append_number hp hn, Item.scan_append_number p hm hmlength (hhead hs),
      Item.scan_append_number p hn hnlength (hhead ht),
      Item.compareAll_trimEnd_numeric Text.compare_self hpos hless]

/-- A zero that is dropped together with one in front of it, and a number that touches a qualifier. -/
theorem compare_first_number_zeros :
    IsNumber "000".toList ∧ IsNumber "01".toList ∧
      Numeral.value "000".toList < Numeral.value "01".toList ∧
      maven.compare (Version.ofString "1-sp.0.000") (Version.ofString "1-sp.0.01alpha") = .ok (-1) ∧
      semver.compare (Version.ofString "1-sp.0.000") (Version.ofString "1-sp.0.01alpha") =
        .ok (-1) := by
  have hzeros : IsNumber "000".toList := ⟨by simp, List.all_eq_true.1 rfl⟩
  have hone : IsNumber "01".toList := ⟨by simp, List.all_eq_true.1 rfl⟩
  have hlt : Numeral.value "000".toList < Numeral.value "01".toList := by decide
  obtain ⟨hmaven, hsemver⟩ := compare_first_number "1-sp.0".toList (s := []) (t := "alpha".toList)
    hzeros hone (by decide) (by decide) hlt (by simp) (by simp)
  exact ⟨hzeros, hone, hlt, hmaven, hsemver (by decide)⟩

end Comparator

end VersionOrder
