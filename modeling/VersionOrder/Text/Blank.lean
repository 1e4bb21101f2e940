/-!
# Texts and blanks

A `Text` is the list of its characters; lengths, cuts and comparisons count characters.
This module fixes which characters are *blank* and how texts are trimmed.

## Main definitions

- `Text`: a list of characters
- `Text.isBlank`: the blank characters
- `Text.trim`: a text without its leading and trailing blanks
- `Text.allBlank`: whether a text holds nothing but blanks
-/

namespace VersionOrder

/-- A text, as the list of its characters. -/
abbrev Text := List Char

namespace Text

/-- The blank characters: the controls from tab to carriage return, the four
separators before the space, the space, and the spaces and line separators of
Unicode. The zero-width space and the byte order mark are not among them. -/
def isBlank (c : Char) : Bool :=
  let n := c.toNat
  (9 ≤ n && n ≤ 13) || (28 ≤ n && n ≤ 32) || n == 0x85 || n == 0xA0 || n == 0x1680 ||
    (0x2000 ≤ n && n ≤ 0x200A) || n == 0x2028 || n == 0x2029 || n == 0x202F || n == 0x205F ||
    n == 0x3000

/-- A text without its leading blanks. -/
def trimLeft (s : Text) : Text :=
  s.dropWhile isBlank

/-- A text without its trailing blanks. -/
def trimRight (s : Text) : Text :=
  (s.reverse.dropWhile isBlank).reverse

/-- A text without its leading and trailing blanks. -/
def trim (s : Text) : Text :=
  trimRight (trimLeft s)

/-- Whether a text holds nothing but blanks; the empty text does. -/
def allBlank (s : Text) : Bool :=
  s.all isBlank

/-- Code-point order, with a shorter text before its continuations. The result is
negative, zero or positive. -/
def compare : Text → Text → Int
  | [], [] => 0
  | [], _ :: _ => -1
  | _ :: _, [] => 1
  | a :: s, b :: t =>
    if a.toNat < b.toNat then -1 else if b.toNat < a.toNat then 1 else compare s t

/-- No digit is blank. -/
theorem isBlank_of_isDigit {c : Char} (h : c.isDigit = true) : isBlank c = false := by
  have hrange := Char.isDigit_iff_toNat.1 h
  simp only [Char.reduceToNat] at hrange
  simp only [isBlank, Bool.or_eq_false_iff, Bool.and_eq_false_imp, decide_eq_true_eq,
    decide_eq_false_iff_not, beq_eq_false_iff_ne]
  omega

@[simp]
theorem trim_nil : trim [] = [] := rfl

/-- A text without blanks is trimmed. -/
theorem trim_eq_self {s : Text} (h : ∀ c ∈ s, isBlank c = false) : trim s = s := by
  have hdrop : ∀ t : Text, (∀ c ∈ t, isBlank c = false) → t.dropWhile isBlank = t := by
    intro t ht
    cases t with
    | nil => rfl
    | cons c t => rw [List.dropWhile_cons_of_neg (by simp [ht c List.mem_cons_self])]
  have hreverse := hdrop s.reverse fun c hc => h c (List.mem_reverse.1 hc)
  rw [trim, trimLeft, hdrop s h, trimRight, hreverse, List.reverse_reverse]

@[simp]
theorem compare_self (s : Text) : compare s s = 0 := by
  induction s with
  | nil => rfl
  | cons a s ih => simp [compare, ih]

end Text

end VersionOrder
