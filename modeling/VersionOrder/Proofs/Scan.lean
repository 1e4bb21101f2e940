import VersionOrder.Proofs.CharClass

/-!
# Items as one scan of the text

What a version is compared by is read in four steps: the text is trimmed and divided into tokens, the
tokens are cut off at the build metadata if that is to be left out, each token of letters and digits
falls into runs, and the trailing zeros are dropped. All of this is one scan of the text from left to
right that takes digit runs for numbers and letter runs for qualifiers and passes over everything else,
so that it does not matter which separators stand between the runs.

## Main definitions

- `Item.scan`: the numbers and qualifiers of a text, from left to right
- `Text.IsName`: runs of letters
- `Text.IsGap`: separators that keep runs apart
-/

namespace VersionOrder

namespace Item

/-- The digit runs of a text as numbers and its letter runs as qualifiers, from left to right. A
digit run too long to be read counts as zero. -/
def scan : Text → List Item
  | [] => []
  | c :: rest =>
    if c.isDigit then
      let run := c :: rest.takeWhile Char.isDigit
      let value : Nat := if run.length ≤ Numeral.digitLimit then Numeral.value run else 0
      .numeric value :: scan (rest.dropWhile Char.isDigit)
    else if c.isAlpha then
      .qualifier (c :: rest.takeWhile Char.isAlpha) :: scan (rest.dropWhile Char.isAlpha)
    else
      scan rest
termination_by s => s.length
decreasing_by
  · exact Nat.lt_succ_of_le (List.dropWhile_suffix _).length_le
  · exact Nat.lt_succ_of_le (List.dropWhile_suffix _).length_le
  · exact Nat.lt_succ_self _

end Item

namespace Text

theorem words_cons_of_class {k : CharClass} (hk : k ≠ .other) {p : Char → Bool}
    (hp : ∀ c, CharClass.ofChar c = k ↔ p c = true) {c : Char} (hc : p c = true) (rest : Text) :
    words CharClass.ofChar .other (c :: rest) =
      (k, c :: rest.takeWhile p) :: words CharClass.ofChar .other (rest.dropWhile p) := by
  have hcut : c :: rest = (c :: rest.takeWhile p) ++ rest.dropWhile p := by
    rw [List.cons_append, List.takeWhile_append_dropWhile]
  have hrun : ∀ d ∈ c :: rest.takeWhile p, CharClass.ofChar d = k := by
    intro d hd
    rw [hp]
    rcases List.mem_cons.1 hd with rfl | hd
    · exact hc
    · exact List.mem_takeWhile_imp hd
  -- The run ends where the class changes, so the two pieces do not grow together.
  have hmeet : ∀ d ∈ (c :: rest.takeWhile p).getLast?, ∀ e ∈ (rest.dropWhile p).head?,
      CharClass.ofChar d ≠ CharClass.ofChar e := by
    intro d hd e he hclass
    have hnot := List.head?_dropWhile_not p rest
    rw [Option.mem_def.1 he] at hnot
    simp [(hp e).1 (hclass.symm.trans (hrun d (List.mem_of_mem_getLast? hd)))] at hnot
  have hword : [(k, c :: rest.takeWhile p)].filter (fun r => r.1 ≠ .other) =
      [(k, c :: rest.takeWhile p)] := by
    simpa using hk
  rw [hcut, words, runs_append hmeet, runs_of_forall (by simp) hrun, List.filter_append, hword]
  rfl

end Text

namespace Item

theorem map_ofClassRun_words (s : Text) :
    (Text.words CharClass.ofChar .other s).map ofClassRun = scan s := by
  fun_induction scan s with
  | case1 => rfl
  | case2 c rest hdigit run value ih =>
    have hitem : ofClassRun (.digit, run) = .numeric value := by
      simp only [ofClassRun, ofDigits, Numeral.read?, value]
      split <;> rfl
    rw [Text.words_cons_of_class (by decide) (fun _ => CharClass.ofChar_eq_digit_iff) hdigit,
      List.map_cons, hitem, ih]
  | case3 c rest hdigit hletter ih =>
    rw [Text.words_cons_of_class (by decide) (fun _ => CharClass.ofChar_eq_letter_iff) hletter,
      List.map_cons, ih]
    rfl
  | case4 c rest hdigit hletter ih =>
    have hother : CharClass.ofChar c = .other := by
      rw [CharClass.ofChar_eq_other_iff, Char.isAlphanum]
      simp [hdigit, hletter]
    rw [Text.words_cons hother, ih]

theorem releaseMarker_notMem_scan (s : Text) : releaseMarker ∉ scan s := by
  fun_induction scan s with
  | case1 => exact List.not_mem_nil
  | case2 c rest hdigit run value ih => simp [ih]
  | case3 c rest hdigit hletter ih => simp [ih]
  | case4 c rest hdigit hletter ih => exact ih

/-- Among numbers and qualifiers, only zeros say nothing at the end. -/
theorem trimEnd_eq_rdropWhile {items : List Item} (h : releaseMarker ∉ items) :
    trimEnd items = items.rdropWhile fun item => item = .numeric 0 := by
  show items.rdropWhile isNegligible = _
  induction items using List.reverseRecOn with
  | nil => rfl
  | append_singleton items item ih =>
    rw [List.mem_append, List.mem_singleton, not_or] at h
    have hitem : isNegligible item = decide (item = .numeric 0) := by
      cases item with
      | numeric n => simp [isNegligible]
      | qualifier q => simp [isNegligible]
      | releaseMarker => exact absurd rfl h.2
    rw [List.rdropWhile_concat, List.rdropWhile_concat, ih h.1, hitem]

theorem trimEnd_scan (s : Text) :
    trimEnd (scan s) = (scan s).rdropWhile fun item => item = .numeric 0 :=
  trimEnd_eq_rdropWhile (releaseMarker_notMem_scan s)

end Item

theorem Maven.items_eq (v : Version) : items v = Item.trimEnd (Item.scan v.text) := by
  rw [← Item.map_ofClassRun_words, ← Item.ofTokens_false_eq]
  rfl

theorem Semver.items_eq (v : Version) :
    items v = Item.trimEnd (Item.scan (v.text.takeWhile fun c => c ≠ '+')) := by
  rw [← Item.map_ofClassRun_words, ← Item.ofTokens_true_eq]
  rfl

/-- A run of ASCII letters. -/
def Text.IsName (name : Text) : Prop :=
  name ≠ [] ∧ ∀ c ∈ name, c.isAlpha = true

namespace Item

theorem scan_append {s t : Text}
    (h : ∀ c ∈ s.getLast?, ∀ d ∈ t.head?, CharClass.ofChar c ≠ CharClass.ofChar d) :
    scan (s ++ t) = scan s ++ scan t := by
  simp only [← map_ofClassRun_words, Text.words, Text.runs_append h, List.filter_append,
    List.map_append]

theorem scan_name {name : Text} (h : name.IsName) : scan name = [.qualifier name] := by
  have hletters : ∀ c ∈ name, CharClass.ofChar c = .letter := fun c hc =>
    CharClass.ofChar_eq_letter_iff.2 (h.2 c hc)
  rw [← map_ofClassRun_words, Text.words, Text.runs_of_forall h.1 hletters]
  rfl

/-- A run of letters that goes on to neither side is one qualifier. -/
theorem scan_append_name {before name after : Text} (hname : name.IsName)
    (hbefore : ∀ c ∈ before.getLast?, c.isAlpha = false)
    (hafter : ∀ c ∈ after.head?, c.isAlpha = false) :
    scan (before ++ (name ++ after)) = scan before ++ .qualifier name :: scan after := by
  have hedge : ∀ {c d : Char}, c.isAlpha = false → d.isAlpha = true →
      CharClass.ofChar c ≠ CharClass.ofChar d := by
    intro c d hc hd hclass
    rw [CharClass.ofChar_eq_letter_iff.2 hd, CharClass.ofChar_eq_letter_iff, hc] at hclass
    cases hclass
  rw [scan_append, scan_append, scan_name hname]
  · rfl
  · intro c hc d hd
    exact (hedge (hafter d hd) (hname.2 c (List.mem_of_mem_getLast? hc))).symm
  · intro c hc d hd
    rw [List.head?_append_of_ne_nil _ hname.1] at hd
    exact hedge (hbefore c hc) (hname.2 d (List.mem_of_mem_head? hd))

end Item

/-- Some separators, which keep the runs on either side apart. -/
def Text.IsGap (gap : Text) : Prop :=
  gap ≠ [] ∧ ∀ c ∈ gap, c.isAlphanum = false

variable {gap gap' : Text}

theorem Text.words_append_gap (s : Text) (hgap : gap.IsGap) (t : Text) :
    words CharClass.ofChar .other (s ++ (gap ++ t)) =
      words CharClass.ofChar .other s ++ words CharClass.ofChar .other t := by
  obtain ⟨hne, hgap⟩ := hgap
  have hother : ∀ c ∈ gap, CharClass.ofChar c = .other := fun c hc =>
    CharClass.ofChar_eq_other_iff.2 (hgap c hc)
  have hhead : ∀ c ∈ (gap ++ t).head?, CharClass.ofChar c = .other := by
    intro c hc
    rw [List.head?_append_of_ne_nil _ hne] at hc
    exact hother c (List.mem_of_mem_head? hc)
  rw [words_append hhead, words_append_left hother]

namespace Item

theorem scan_append_gap (s : Text) (hgap : gap.IsGap) (t : Text) :
    scan (s ++ (gap ++ t)) = scan s ++ scan t := by
  rw [← map_ofClassRun_words, Text.words_append_gap s hgap, List.map_append, map_ofClassRun_words,
    map_ofClassRun_words]

theorem scan_takeWhile_append_gap (s : Text) (hgap : gap.IsGap) (hplus : '+' ∉ gap) (t : Text) :
    scan ((s ++ (gap ++ t)).takeWhile fun c => c ≠ '+') =
      if '+' ∈ s then scan (s.takeWhile fun c => c ≠ '+')
      else scan s ++ scan (t.takeWhile fun c => c ≠ '+') := by
  split
  next hs => rw [Text.takeWhile_append_of_mem hs]
  next hs =>
    rw [Text.takeWhile_append_of_notMem hs, Text.takeWhile_append_of_notMem hplus,
      scan_append_gap s hgap]

theorem ofTokens_append_gap (leaveOutBuild : Bool) (s : Text) (hgap : gap.IsGap)
    (hgap' : gap'.IsGap) (hplus : leaveOutBuild = true → '+' ∉ gap ∧ '+' ∉ gap') (t : Text) :
    ofTokens leaveOutBuild (tokenize (s ++ (gap ++ t))) =
      ofTokens leaveOutBuild (tokenize (s ++ (gap' ++ t))) := by
  cases leaveOutBuild with
  | false =>
    simp only [ofTokens_false_eq, map_ofClassRun_words, scan_append_gap s hgap,
      scan_append_gap s hgap']
  | true =>
    obtain ⟨hnot, hnot'⟩ := hplus rfl
    simp only [ofTokens_true_eq, map_ofClassRun_words, scan_takeWhile_append_gap s hgap hnot,
      scan_takeWhile_append_gap s hgap' hnot']

theorem ofTokens_append_blanks (leaveOutBuild : Bool) (s : Text) {before after : Text}
    (hbefore : ∀ c ∈ before, Text.isBlank c = true) (hafter : ∀ c ∈ after, Text.isBlank c = true) :
    ofTokens leaveOutBuild (tokenize (before ++ (s ++ after))) =
      ofTokens leaveOutBuild (tokenize s) := by
  rw [tokenize, Text.trim_append_append hbefore hafter, ← tokenize]

/-- The items of a version are the numbers and qualifiers that one scan of its text finds, up to the
last one that is no zero; with build metadata left out, those of the text before its first plus sign.
Separators, whatever they are, and blanks around the text do not matter. -/
theorem ofTokens_eq_scan (s : Text) :
    ofTokens false (tokenize s) = (scan s).rdropWhile (fun item => item = .numeric 0) ∧
      ofTokens true (tokenize s) =
        (scan (s.takeWhile fun c => c ≠ '+')).rdropWhile (fun item => item = .numeric 0) ∧
      (∀ leaveOutBuild (gap gap' : Text), gap.IsGap → gap'.IsGap →
        (leaveOutBuild = true → '+' ∉ gap ∧ '+' ∉ gap') → ∀ t,
        ofTokens leaveOutBuild (tokenize (s ++ (gap ++ t))) =
          ofTokens leaveOutBuild (tokenize (s ++ (gap' ++ t)))) ∧
      ∀ leaveOutBuild (before after : Text), (∀ c ∈ before, Text.isBlank c = true) →
        (∀ c ∈ after, Text.isBlank c = true) →
        ofTokens leaveOutBuild (tokenize (before ++ (s ++ after))) =
          ofTokens leaveOutBuild (tokenize s) := by
  refine ⟨?_, ?_, ?_, ?_⟩
  · rw [ofTokens_false_eq, map_ofClassRun_words, trimEnd_scan]
  · rw [ofTokens_true_eq, map_ofClassRun_words, trimEnd_scan]
  · intro leaveOutBuild gap gap' hgap hgap' hplus t
    exact ofTokens_append_gap leaveOutBuild s hgap hgap' hplus t
  · intro leaveOutBuild before after hbefore hafter
    exact ofTokens_append_blanks leaveOutBuild s hbefore hafter

/-- A hyphen and a spaced dot before a release candidate, with metadata behind it. -/
theorem ofTokens_eq_scan_candidate :
    Text.IsGap ['-'] ∧ Text.IsGap [' ', '.', ' '] ∧
      ofTokens true (tokenize (['1', '0'] ++ (['-'] ++ "rc1.0+7".toList))) =
        ofTokens true (tokenize (['1', '0'] ++ ([' ', '.', ' '] ++ "rc1.0+7".toList))) ∧
      ofTokens true (tokenize (['1', '0'] ++ (['-'] ++ "rc1.0+7".toList))) =
        [.numeric 10, .qualifier ['r', 'c'], .numeric 1] ∧
      ofTokens true (tokenize (['\t'] ++ (['1', '0'] ++ ['\u3000']))) =
        ofTokens true (tokenize ['1', '0']) := by
  have hhyphen : Text.IsGap ['-'] := ⟨by simp, List.forall_mem_singleton.2 rfl⟩
  have hdot : Text.IsGap [' ', '.', ' '] := ⟨by simp, by simp⟩
  obtain ⟨-, -, hgaps, hblanks⟩ := ofTokens_eq_scan ['1', '0']
  exact ⟨hhyphen, hdot, hgaps true _ _ hhyphen hdot (by decide) _, by decide,
    hblanks true _ _ (List.all_eq_true.1 rfl) (List.all_eq_true.1 rfl)⟩

end Item

end VersionOrder
