import VersionOrder.Text.Blank
import VersionOrder.Text.CaseTable

/-!
# Lower and upper case

The full case mappings of texts: one character may become several, and a sigma at the end of a
word has a lower case of its own.

## Main definitions

- `Text.lower`, `Text.upper`: the mappings of whole texts
- `Text.lowerChar`, `Text.upperChar`: the mappings of single characters
-/

namespace VersionOrder

namespace Text

/-- The counterpart of a character under a list of runs; a character in no run stands for
itself. -/
def imageUnder (runs : List CaseRun) (c : Char) : Char :=
  match runs.findSome? fun run => run.image? c.toNat with
  | some n => Char.ofNat n
  | none => c

/-- The lower case of a character on its own. -/
def lowerChar (c : Char) : Text :=
  if c.toNat < 0x80 then [c.toLower]
  else if c = 'İ' then ['i', '\u0307']
  else [imageUnder lowerRuns c]

/-- The upper case of a character. -/
def upperChar (c : Char) : Text :=
  if c.toNat < 0x80 then [c.toUpper]
  else match upperExpansions.lookup c.toNat with
    | some codes => codes.map Char.ofNat
    | none => [imageUnder upperRuns c]

/-- Whether the first character that counts for case is a cased one. -/
def startsCased (s : Text) : Bool :=
  match s.dropWhile fun c => inRanges caseIgnorableRanges c.toNat with
  | [] => false
  | c :: _ => inRanges casedRanges c.toNat

/-- The lower case of the text after the characters `before`, which are given last first. A sigma
that follows a cased character and precedes none is final. -/
def lowerAfter (before : Text) : Text → Text
  | [] => []
  | c :: rest =>
    (if c = 'Σ' then
      [if startsCased before && !startsCased rest then 'ς' else 'σ']
    else
      lowerChar c) ++ lowerAfter (c :: before) rest

/-- The lower case of a text. -/
def lower (s : Text) : Text :=
  lowerAfter [] s

/-- The upper case of a text. -/
def upper (s : Text) : Text :=
  s.flatMap upperChar

@[simp]
theorem lower_nil : lower [] = [] := rfl

@[simp]
theorem upper_nil : upper [] = [] := rfl

theorem upper_append (s t : Text) : upper (s ++ t) = upper s ++ upper t := by
  simp [upper]

/-- Outside the sigma, lower case is taken character by character. -/
theorem lower_eq_flatMap {s : Text} (h : 'Σ' ∉ s) : lower s = s.flatMap lowerChar := by
  suffices ∀ before, lowerAfter before s = s.flatMap lowerChar from this []
  induction s with
  | nil => intro before; rfl
  | cons c rest ih =>
    intro before
    have hc : c ≠ 'Σ' := fun e => h (by simp [e])
    simp [lowerAfter, hc, ih fun hm => h (List.mem_cons_of_mem c hm)]

end Text

end VersionOrder
