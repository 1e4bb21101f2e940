import VersionOrder.Proofs.Trimming

/-!
# Digits and letters of a text

The items of a version are read in two steps: the text falls into tokens, and each token of letters
and digits into digit runs and letter runs. Both steps together are one scan of the text, trimmed or
not, by three classes of characters. In the same way the digit runs of a calendar version are those of
its text.

## Main definitions

- `CharClass`: digits, letters and all other characters
- `Text.digitRuns`, `Text.letterRuns`: the maximal digit runs and letter runs of a text
-/

namespace VersionOrder

/-- What the scan of a version text tells apart. -/
inductive CharClass where
  | digit
  | letter
  | other
  deriving DecidableEq, Repr

namespace CharClass

def ofChar (c : Char) : CharClass :=
  if c.isDigit then .digit else if c.isAlpha then .letter else .other

/-- The kind of the token that characters of a class stand in. -/
def kind : CharClass → TokenKind
  | .other => .separator
  | _ => .alphanumeric

def isDigit : CharClass → Bool
  | .digit => true
  | _ => false

theorem ofChar_eq_digit_iff {c : Char} : ofChar c = .digit ↔ c.isDigit = true := by
  by_cases hdigit : c.isDigit = true <;> by_cases halpha : c.isAlpha = true <;>
    simp [ofChar, hdigit, halpha]

theorem ofChar_eq_other_iff {c : Char} : ofChar c = .other ↔ c.isAlphanum = false := by
  by_cases hdigit : c.isDigit = true <;> by_cases halpha : c.isAlpha = true <;>
    simp [ofChar, Char.isAlphanum, hdigit, halpha]

theorem toNat_of_isAlpha {c : Char} (h : c.isAlpha = true) :
    (65 ≤ c.toNat ∧ c.toNat ≤ 90) ∨ (97 ≤ c.toNat ∧ c.toNat ≤ 122) := by
  rcases Bool.or_eq_true_iff.1 h with hupper | hlower
  · exact .inl (of_decide_eq_true hupper)
  · obtain ⟨hlow, hhigh⟩ := Bool.and_eq_true_iff.1 hlower
    exact .inr ⟨of_decide_eq_true hlow, of_decide_eq_true hhigh⟩

theorem not_isDigit_of_isAlpha {c : Char} (h : c.isAlpha = true) : c.isDigit = false := by
  refine Bool.eq_false_iff.2 fun hdigit => ?_
  have hrange := Char.isDigit_iff_toNat.1 hdigit
  have hletter := toNat_of_isAlpha h
  simp only [Char.reduceToNat] at hrange
  omega

theorem ofChar_eq_letter_iff {c : Char} : ofChar c = .letter ↔ c.isAlpha = true := by
  by_cases halpha : c.isAlpha = true
  · simp [ofChar, halpha, not_isDigit_of_isAlpha halpha]
  · by_cases hdigit : c.isDigit = true <;> simp [ofChar, hdigit, halpha]

theorem kind_comp_ofChar : kind ∘ ofChar = TokenKind.ofChar := by
  funext c
  by_cases hdigit : c.isDigit = true <;> by_cases halpha : c.isAlpha = true <;>
    simp [ofChar, TokenKind.ofChar, Char.isAlphanum, kind, hdigit, halpha]

theorem isDigit_comp_ofChar : isDigit ∘ ofChar = Char.isDigit := by
  funext c
  by_cases hdigit : c.isDigit = true <;> by_cases halpha : c.isAlpha = true <;>
    simp [ofChar, isDigit, hdigit, halpha]

theorem eq_of_isDigit_eq {k l : CharClass} (hk : k ≠ .other) (hl : l ≠ .other)
    (h : k.isDigit = l.isDigit) : k = l := by
  cases k <;> cases l <;> simp_all [isDigit]

section Runs

variable {s : Text} {r : TokenKind × Text}

theorem kind_of_mem_runs (hr : r ∈ Text.runs TokenKind.ofChar s) {c : Char} (hc : c ∈ r.2) :
    kind (ofChar c) = r.1 :=
  (congrFun kind_comp_ofChar c).trans ((Text.forall_mem_runs _ _ r hr).2 c hc)

theorem ne_other_of_word (hr : r ∈ Text.runs TokenKind.ofChar s) (hword : r.1 ≠ .separator) :
    ∀ c ∈ r.2, ofChar c ≠ .other := by
  intro c hc hother
  exact hword (by rw [← kind_of_mem_runs hr hc, hother, kind])

theorem ofChar_of_separator (hr : r ∈ Text.runs TokenKind.ofChar s)
    (hword : decide (r.1 ≠ .separator) = false) : ∀ c ∈ r.2, ofChar c = .other := by
  intro c hc
  have hkey := kind_of_mem_runs hr hc
  rw [show r.1 = .separator by simpa using hword] at hkey
  cases hclass : ofChar c <;> simp [hclass, kind] at hkey ⊢

end Runs

end CharClass

namespace Text

section Runs

variable {κ ι : Type} [DecidableEq κ] [DecidableEq ι] {key : Char → κ}

theorem subset_of_mem_runs {s : Text} {r : κ × Text} (h : r ∈ runs key s) : ∀ c ∈ r.2, c ∈ s := by
  intro c hc
  rw [← flatten_runs key s]
  exact List.mem_flatten.2 ⟨r.2, List.mem_map_of_mem h, hc⟩

theorem exists_key_of_mem_runs {s : Text} {r : κ × Text} (h : r ∈ runs key s) :
    ∃ c ∈ s, key c = r.1 := by
  obtain ⟨hne, hkey⟩ := forall_mem_runs key s r h
  obtain ⟨c, hc⟩ := List.exists_mem_of_ne_nil _ hne
  exact ⟨c, subset_of_mem_runs h c hc, hkey c hc⟩

theorem runs_ne_nil (key : Char → κ) {s : Text} (h : s ≠ []) : runs key s ≠ [] := by
  intro hruns
  have hflatten := flatten_runs key s
  rw [hruns] at hflatten
  exact h hflatten.symm

/-- Runs under a coarser key fall into the runs under the finer one. -/
theorem flatMap_runs (key : Char → κ) (f : κ → ι) (s : Text) :
    (runs (f ∘ key) s).flatMap (fun r => runs key r.2) = runs key s := by
  induction s with
  | nil => rfl
  | cons c rest ih =>
    cases hcoarse : runs (f ∘ key) rest with
    | nil =>
      have hrest : rest = [] := by simpa [hcoarse] using (flatten_runs (f ∘ key) rest).symm
      subst hrest
      simp [runs]
    | cons r more =>
      obtain ⟨k, run⟩ := r
      obtain ⟨hne, hkey⟩ := forall_mem_runs (f ∘ key) rest (k, run) (by simp [hcoarse])
      obtain ⟨first, fine, hfine⟩ := List.exists_cons_of_ne_nil (runs_ne_nil key hne)
      rw [hcoarse, List.flatMap_cons, hfine] at ih
      rw [runs, hcoarse, runs.eq_2 key c rest, ← ih]
      by_cases hc : (f ∘ key) c = k
      · -- The character joins the first coarse run, and both sides look at its first fine run.
        simp only [if_pos hc, List.flatMap_cons, runs, hfine, List.cons_append]
        split <;> rfl
      · obtain ⟨d, hd, hfirst⟩ := exists_key_of_mem_runs (hfine ▸ List.mem_cons_self : first ∈ _)
        have hother : key c ≠ first.1 := by
          intro heq
          exact hc ((congrArg f (heq.trans hfirst.symm)).trans (hkey d hd))
        simp only [if_neg hc, List.flatMap_cons, hfine, List.cons_append]
        simp [runs, hother]

/-- A key that tells the characters of a text apart as another one does has the same runs. -/
theorem runs_comp (key : Char → κ) (f : κ → ι) {s : Text}
    (h : ∀ c ∈ s, ∀ d ∈ s, f (key c) = f (key d) → key c = key d) :
    runs (f ∘ key) s = (runs key s).map (Prod.map f id) := by
  induction s with
  | nil => rfl
  | cons c rest ih =>
    have hrest := ih fun a ha d hd => h a (List.mem_cons_of_mem c ha) d (List.mem_cons_of_mem c hd)
    rw [runs, runs, hrest]
    cases hruns : runs key rest with
    | nil => rfl
    | cons r more =>
      obtain ⟨d, hd, hkey⟩ := exists_key_of_mem_runs (hruns ▸ List.mem_cons_self : r ∈ runs key rest)
      have hiff : f (key c) = f r.1 ↔ key c = r.1 := by
        rw [← hkey]
        exact ⟨h c List.mem_cons_self d (List.mem_cons_of_mem c hd), congrArg f⟩
      obtain ⟨k, run⟩ := r
      by_cases hc : key c = k
      · simp [hc]
      · simp [hc, hiff]

end Runs

theorem flatMap_filter {α β : Type} {items : List α} {p : α → Bool} {f : α → List β}
    (h : ∀ x ∈ items, p x = false → f x = []) : (items.filter p).flatMap f = items.flatMap f := by
  induction items with
  | nil => rfl
  | cons x items ih =>
    have hrest := ih fun y hy => h y (List.mem_cons_of_mem x hy)
    cases hx : p x with
    | true => simp [hx, hrest]
    | false => simp [hx, hrest, h x List.mem_cons_self hx]

/-- The maximal digit runs of a text, left to right. -/
def digitRuns (s : Text) : List Text :=
  ((runs Char.isDigit s).filter Prod.fst).map Prod.snd

/-- The maximal letter runs of a text, left to right. -/
def letterRuns (s : Text) : List Text :=
  ((runs Char.isAlpha s).filter Prod.fst).map Prod.snd

/-- The maximal runs of a text in one class. -/
def classRuns (k : CharClass) (s : Text) : List Text :=
  ((runs CharClass.ofChar s).filter fun r => r.1 = k).map Prod.snd

variable {k : CharClass} {s : Text}

theorem classRuns_of_forall (hne : s ≠ []) (h : ∀ c ∈ s, CharClass.ofChar c = k) :
    classRuns k s = [s] := by
  simp [classRuns, runs_of_forall hne h]

theorem classRuns_of_forall_ne (h : ∀ c ∈ s, CharClass.ofChar c ≠ k) : classRuns k s = [] := by
  rw [classRuns, List.map_eq_nil_iff, List.filter_eq_nil_iff]
  intro r hr
  obtain ⟨c, hc, hkey⟩ := exists_key_of_mem_runs hr
  simpa [← hkey] using h c hc

theorem flatMap_classRuns {ι : Type} [DecidableEq ι] (f : CharClass → ι) (k : CharClass) (s : Text) :
    (runs (f ∘ CharClass.ofChar) s).flatMap (fun r => classRuns k r.2) = classRuns k s := by
  rw [classRuns, ← flatMap_runs CharClass.ofChar f, List.filter_flatMap, List.map_flatMap]
  rfl

/-- The runs of one class can be told by a test for its characters alone. -/
theorem filter_runs_eq_classRuns {k : CharClass} {p : Char → Bool}
    (hp : ∀ c, CharClass.ofChar c = k ↔ p c = true) (s : Text) :
    ((runs p s).filter Prod.fst).map Prod.snd = classRuns k s := by
  have hcomp : (fun l => decide (l = k)) ∘ CharClass.ofChar = p := by
    funext c
    rw [Function.comp_apply, Bool.eq_iff_iff, decide_eq_true_iff]
    exact hp c
  rw [← flatMap_classRuns (fun l => decide (l = k)), hcomp, ← flatMap_filter (p := Prod.fst),
    List.map_eq_flatMap]
  · refine List.flatMap_congr fun r hr => ?_
    obtain ⟨hmem, hkept⟩ := List.mem_filter.1 hr
    obtain ⟨hne, hkey⟩ := forall_mem_runs p s r hmem
    exact (classRuns_of_forall hne fun c hc => (hp c).2 ((hkey c hc).trans hkept)).symm
  · intro r hr hother
    refine classRuns_of_forall_ne fun c hc h => ?_
    have hkey := (forall_mem_runs p s r hr).2 c hc
    simp [(hp c).1 h, hother] at hkey

theorem digitRuns_eq_classRuns (s : Text) : digitRuns s = classRuns .digit s :=
  filter_runs_eq_classRuns (fun _ => CharClass.ofChar_eq_digit_iff) s

theorem letterRuns_eq_classRuns (s : Text) : letterRuns s = classRuns .letter s :=
  filter_runs_eq_classRuns (fun _ => CharClass.ofChar_eq_letter_iff) s

end Text

theorem filter_tokenize (s : Text) : (tokenize s).filter Token.isAlphanumeric =
    (Text.words TokenKind.ofChar .separator (Text.trim s)).map Token.ofRun := by
  have hkind : Token.isAlphanumeric ∘ Token.ofRun = fun run => decide (run.1 ≠ .separator) := by
    funext ⟨kind, run⟩
    cases kind <;> rfl
  have htokens : tokenize s = (Text.runs TokenKind.ofChar (Text.trim s)).map Token.ofRun := rfl
  rw [htokens, List.filter_map, hkind]
  rfl

theorem words_tokens_trim (s : Text) : Text.words TokenKind.ofChar .separator (Text.trim s) =
    Text.words TokenKind.ofChar .separator s := by
  refine Text.words_trim (fun c hc => ?_) s
  simp [TokenKind.ofChar, Text.isAlphanum_of_isBlank hc]

theorem Calendar.digitRuns_eq (s : Text) : digitRuns ⟨s⟩ = Text.digitRuns s := by
  have hruns : digitRuns ⟨s⟩ =
      ((tokenize s).filter Token.isAlphanumeric).flatMap fun t => Text.digitRuns t.text := rfl
  rw [hruns, filter_tokenize, words_tokens_trim, List.flatMap_map, Text.digitRuns_eq_classRuns,
    ← Text.flatMap_classRuns CharClass.kind, CharClass.kind_comp_ofChar]
  simp only [Text.digitRuns_eq_classRuns, Token.ofRun]
  refine Text.flatMap_filter fun r hr hseparator => Text.classRuns_of_forall_ne fun c hc h => ?_
  have hother := CharClass.ofChar_of_separator hr hseparator c hc
  exact absurd (h.symm.trans hother) (by decide)

/-- The item that a run of digits or letters writes. -/
def Item.ofClassRun : CharClass × Text → Item
  | (.digit, run) => ofDigits run
  | (_, run) => .qualifier run

theorem Item.ofRuns_eq {word : Text} (h : ∀ c ∈ word, CharClass.ofChar c ≠ .other) :
    ofRuns word = ((Text.runs CharClass.ofChar word).filter fun r => r.1 ≠ .other).map ofClassRun := by
  -- A word is divided by digits alone, which tells its two classes apart.
  have hruns := Text.runs_comp CharClass.ofChar CharClass.isDigit fun c hc d hd =>
    CharClass.eq_of_isDigit_eq (h c hc) (h d hd)
  rw [CharClass.isDigit_comp_ofChar] at hruns
  have hwords : ∀ r ∈ Text.runs CharClass.ofChar word, r.1 ≠ .other := by
    intro r hr
    obtain ⟨c, hc, hkey⟩ := Text.exists_key_of_mem_runs hr
    exact hkey ▸ h c hc
  rw [ofRuns, hruns, List.map_map, List.filter_eq_self.2 (by simpa using hwords)]
  refine List.map_congr_left fun r hr => ?_
  obtain ⟨k, run⟩ := r
  cases k with
  | digit => rfl
  | letter => rfl
  | other => exact absurd rfl (hwords _ hr)

/-- The items of words are the digit runs and letter runs of the text. -/
theorem Item.ofWords_eq (s : Text) : ofWords (Text.words TokenKind.ofChar .separator s) =
    trimEnd ((Text.words CharClass.ofChar .other s).map ofClassRun) := by
  rw [ofWords]
  congr 1
  rw [Text.words, Text.words, ← Text.flatMap_runs CharClass.ofChar CharClass.kind,
    CharClass.kind_comp_ofChar, List.filter_flatMap, List.map_flatMap]
  -- Each word contributes the runs within it, and a separator has none to contribute.
  refine (List.flatMap_congr fun r hr => ?_).trans (Text.flatMap_filter fun r hr hseparator => ?_)
  · obtain ⟨hmem, hword⟩ := List.mem_filter.1 hr
    exact ofRuns_eq (CharClass.ne_other_of_word hmem (by simpa using hword))
  · obtain ⟨hne, -⟩ := Text.forall_mem_runs _ _ r hr
    rw [Text.runs_of_forall hne (CharClass.ofChar_of_separator hr hseparator)]
    rfl

/-- The items of a version are the digit runs and letter runs of its text, blanks around it or not,
up to the last one that says something. -/
theorem Item.ofTokens_false_eq (s : Text) : ofTokens false (tokenize s) =
    trimEnd ((Text.words CharClass.ofChar .other s).map ofClassRun) := by
  rw [← ofWords_eq, ← words_tokens_trim, ofTokens, if_neg (by simp), filter_tokenize,
    List.flatMap_map]
  rfl

/-- With build metadata left out, they are those of the text before its first plus sign. -/
theorem Item.ofTokens_true_eq (s : Text) : ofTokens true (tokenize s) =
    trimEnd ((Text.words CharClass.ofChar .other (s.takeWhile fun c => c ≠ '+')).map ofClassRun) := by
  rw [ofTokens_tokenize, ofWords_eq]

end VersionOrder
