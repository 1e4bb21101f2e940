import VersionOrder.Proofs.Readable
import VersionOrder.Proofs.Words

/-!
# Build metadata of semantic versions

The family of semantic versioning leaves build metadata out token by token: nothing counts from the
first separator with a plus sign on. The default scheme sets the build part of the text aside before
the rest is read at all. Both see the same items, so they compare alike, wherever plus signs and
blanks stand.
-/

namespace VersionOrder

namespace Text

variable {p : Char} {s : Text}

/-- No letter or digit is blank. -/
theorem isAlphanum_of_isBlank {c : Char} (h : isBlank c = true) : c.isAlphanum = false := by
  refine Bool.eq_false_iff.2 fun hword => ?_
  have hranges : ((65 ≤ c.toNat ∧ c.toNat ≤ 90) ∨ (97 ≤ c.toNat ∧ c.toNat ≤ 122)) ∨
      (48 ≤ c.toNat ∧ c.toNat ≤ 57) := by
    rcases Bool.or_eq_true_iff.1 hword with hletter | hdigit
    · rcases Bool.or_eq_true_iff.1 hletter with hupper | hlower
      · exact .inl (.inl (of_decide_eq_true hupper))
      · obtain ⟨hlow, hhigh⟩ := Bool.and_eq_true_iff.1 hlower
        exact .inl (.inr ⟨of_decide_eq_true hlow, of_decide_eq_true hhigh⟩)
    · exact .inr (Char.isDigit_iff_toNat.1 hdigit)
  simp only [isBlank, Bool.or_eq_true, Bool.and_eq_true, decide_eq_true_eq, beq_iff_eq] at h
  omega

/-- Cutting a text at a single character is cutting it before and after the first occurrence. -/
theorem cutAt?_singleton (p : Char) (s : Text) :
    cutAt? [p] s =
      if p ∈ s then some (s.takeWhile fun c => c ≠ p, (s.dropWhile fun c => c ≠ p).tail)
      else none := by
  induction s with
  | nil => rfl
  | cons c rest ih =>
    by_cases hc : c = p
    · simp [cutAt?, hc]
    · have hhere : [p].isPrefixOf (c :: rest) = false := by
        simp [List.isPrefixOf, Ne.symm hc]
      rw [cutAt?, if_neg (by simp [hhere]), ih]
      by_cases hp : p ∈ rest
      · simp [hp, hc]
      · simp [hp, Ne.symm hc]

theorem cutAt?_append_cons {first : Text} (hp : p ∉ first) (second : Text) :
    cutAt? [p] (first ++ p :: second) = some (first, second) := by
  have hkept : ∀ c ∈ first, (decide (c ≠ p)) = true := by
    intro c hc
    simpa using fun hcp : c = p => hp (hcp ▸ hc)
  rw [cutAt?_singleton, if_pos (by simp), List.takeWhile_append_of_pos hkept,
    List.dropWhile_append_of_pos hkept]
  simp

theorem occursIn_singleton (p : Char) (s : Text) : occursIn [p] s = decide (p ∈ s) := by
  rw [occursIn, cutAt?_singleton]
  split <;> simp [*]

/-- A text is its trimmed form between blanks. -/
theorem exists_eq_trim (s : Text) : ∃ before after, s = before ++ (trim s ++ after) ∧
    (∀ c ∈ before, isBlank c = true) ∧ ∀ c ∈ after, isBlank c = true := by
  refine ⟨s.takeWhile isBlank, (s.dropWhile isBlank).rtakeWhile isBlank, ?_, ?_, ?_⟩
  · have hright : trim s ++ (s.dropWhile isBlank).rtakeWhile isBlank = s.dropWhile isBlank :=
      List.rdropWhile_append_rtakeWhile
    rw [hright, List.takeWhile_append_dropWhile]
  · intro c hc
    exact List.mem_takeWhile_imp hc
  · intro c hc
    exact List.mem_rtakeWhile_imp hc

/-- Trimming a text does not change the words before a character that is not blank. -/
theorem words_takeWhile_trim (hp : isBlank p = false) (s : Text) :
    words TokenKind.ofChar .separator ((trim s).takeWhile fun c => c ≠ p) =
      words TokenKind.ofChar .separator (s.takeWhile fun c => c ≠ p) := by
  obtain ⟨before, after, hs, hbefore, hafter⟩ := exists_eq_trim s
  have hne : ∀ c : Char, isBlank c = true → (decide (c ≠ p)) = true := by
    intro c hc
    simpa using fun hcp : c = p => by simp [hcp, hp] at hc
  have hseparator : ∀ c : Char, isBlank c = true → TokenKind.ofChar c = .separator := by
    intro c hc
    simp [TokenKind.ofChar, isAlphanum_of_isBlank hc]
  generalize trim s = trimmed at hs ⊢
  subst hs
  rw [List.takeWhile_append_of_pos fun c hc => hne c (hbefore c hc),
    words_append_left fun c hc => hseparator c (hbefore c hc), List.takeWhile_append]
  split
  next hfull =>
    -- No such character stands in the trimmed text, so the blanks after it are kept.
    rw [(List.takeWhile_prefix _).eq_of_length hfull, words_append_right]
    intro c hc
    exact hseparator c (hafter c ((List.takeWhile_prefix _).subset hc))
  next => rfl

end Text

/-- The token that a run is. -/
def Token.ofRun (run : TokenKind × Text) : Token :=
  ⟨run.1, run.2⟩

namespace Item

/-- The items of words. -/
def ofWords (words : List (TokenKind × Text)) : List Item :=
  trimEnd (words.flatMap fun word => ofRuns word.2)

/-- The items of tokens are those of the runs that are words. -/
theorem trimEnd_tokens (runs : List (TokenKind × Text)) :
    trimEnd (((runs.map Token.ofRun).filter Token.isAlphanumeric).flatMap fun t => ofRuns t.text) =
      ofWords (runs.filter fun run => run.1 ≠ .separator) := by
  have hkind : Token.isAlphanumeric ∘ Token.ofRun = fun run => decide (run.1 ≠ .separator) := by
    funext ⟨kind, run⟩
    cases kind <;> rfl
  rw [List.filter_map, List.flatMap_map, hkind]
  rfl

/-- The items of a version, build metadata left out, are those of the words before the first plus
sign, blanks around the text or not. -/
theorem ofTokens_tokenize (s : Text) :
    ofTokens true (tokenize s) =
      ofWords (Text.words TokenKind.ofChar .separator (s.takeWhile fun c => c ≠ '+')) := by
  have htokens : tokenize s = (Text.runs TokenKind.ofChar (Text.trim s)).map Token.ofRun := rfl
  have hplus : TokenKind.ofChar '+' = .separator := by decide
  have hgo : ∀ run : TokenKind × Text, '+' ∉ run.2 → (startsBuild ∘ Token.ofRun) run = false := by
    intro run hrun
    simp [startsBuild, Token.ofRun, hrun]
  have hstop : ∀ text : Text, '+' ∈ text →
      (startsBuild ∘ Token.ofRun) (TokenKind.ofChar '+', text) = true := by
    intro text htext
    simp [startsBuild, Token.ofRun, Token.isAlphanumeric, hplus, htext]
  have hcut := Text.filter_takeWhile_runs hgo hstop (Text.trim s)
  rw [hplus, Text.words_takeWhile_trim (by decide)] at hcut
  rw [← hcut, ← trimEnd_tokens, ofTokens, if_pos rfl, htokens, List.takeWhile_map]
  rfl

end Item

/-- Build metadata that is cut off does not change the items of a version. -/
theorem Semver.items_takeWhile (s : Text) : items ⟨s.takeWhile fun c => c ≠ '+'⟩ = items ⟨s⟩ := by
  simp only [items, Version.tokens, Item.ofTokens_tokenize, List.takeWhile_takeWhile, and_self,
    Bool.decide_eq_true]

namespace Layout

/-- A layout with the version part first and a single character as delimiter takes what stands
before that character as version part. -/
theorem split_version {layout : Layout} {p : Char} (hfirst : layout.versionFirst = true)
    (hdelimiter : layout.delimiter = [p]) (s : Text) :
    (layout.split s).version = s.takeWhile fun c => c ≠ p := by
  rw [split, hdelimiter, if_neg (by simp), Text.cutAt?_singleton]
  by_cases hp : p ∈ s
  · simp [hp, hfirst]
  · rw [if_neg hp, Text.takeWhile_ne_eq_self hp]

end Layout

/-- The default scheme of semantic versioning, which cuts texts at their first plus sign before it
reads them, compares all versions as the family does, which stops at the first separator with a plus
sign. -/
theorem Scheme.compare_semverDefault (v w : Version) :
    semverDefault.compare v w = Comparator.semver.compare v w := by
  have hitems : ∀ u : Version,
      Semver.items ⟨(semverDefault.layout.split u.text).version⟩ = Semver.items u := by
    intro u
    rw [Layout.split_version rfl rfl, Semver.items_takeWhile]
  rw [compare_of_ignore rfl rfl]
  change Except.ok (Semver.compare _ _) = Except.ok (Semver.compare _ _)
  simp only [Semver.compare, hitems]

end VersionOrder
