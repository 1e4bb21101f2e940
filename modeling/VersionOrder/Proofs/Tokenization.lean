import Mathlib.Data.List.Chain
import VersionOrder.Proofs.BuildMetadata

/-!
# Tokens as the runs of a text

The maximal runs of a text under a key are the only pieces that make the text up, are not empty, hold
characters of one key each, and change the key from one piece to the next. The tokens of a version are
of this kind: there is one way to divide a trimmed text into words and separators that alternate.

## Main definitions

- `Text.AreRuns`: pieces that are uniform and change their key from one to the next
- `Token.Divide`: tokens that divide a text into words and separators
-/

namespace VersionOrder

namespace Text

variable {κ : Type} {key : Char → κ} {pieces : List (κ × Text)}

/-- The pieces are not empty, agree with their keys, and no key follows itself. -/
structure AreRuns (key : Char → κ) (pieces : List (κ × Text)) : Prop where
  uniform : ∀ r ∈ pieces, r.2 ≠ [] ∧ ∀ c ∈ r.2, key c = r.1
  changing : pieces.IsChain fun r r' => r.1 ≠ r'.1

/-- The text that starts with a uniform piece starts with its key. -/
theorem AreRuns.head?_flatten (h : AreRuns key pieces) {d : Char}
    (hd : d ∈ ((pieces.map Prod.snd).flatten).head?) :
    ∃ r ∈ pieces.head?, key d = r.1 := by
  cases pieces with
  | nil => cases hd
  | cons r more =>
    obtain ⟨hne, hkey⟩ := h.uniform r List.mem_cons_self
    obtain ⟨c, run, hrun⟩ := List.exists_cons_of_ne_nil hne
    rw [List.map_cons, List.flatten_cons, hrun] at hd
    obtain rfl : c = d := Option.some.inj hd
    exact ⟨r, rfl, hkey c (hrun ▸ List.mem_cons_self)⟩

variable [DecidableEq κ]

theorem isChain_runs (key : Char → κ) (s : Text) :
    (runs key s).IsChain fun r r' => r.1 ≠ r'.1 := by
  induction s with
  | nil => exact List.isChain_nil
  | cons c rest ih =>
    rw [runs]
    split
    next => exact List.isChain_singleton _
    next k run more hruns =>
      rw [hruns] at ih
      split
      next =>
        -- The first run grows by a character and keeps its key.
        cases more with
        | nil => exact List.isChain_singleton _
        | cons r more => exact List.isChain_cons_cons.2 (List.isChain_cons_cons.1 ih)
      next hne => exact List.isChain_cons_cons.2 ⟨hne, ih⟩

theorem areRuns_runs (key : Char → κ) (s : Text) : AreRuns key (runs key s) :=
  ⟨forall_mem_runs key s, isChain_runs key s⟩

/-- Pieces of this kind are the runs of the text that they make up. -/
theorem AreRuns.runs_flatten (h : AreRuns key pieces) :
    runs key (pieces.map Prod.snd).flatten = pieces := by
  induction pieces with
  | nil => rfl
  | cons r more ih =>
    obtain ⟨⟨hne, hkey⟩, hmore⟩ := List.forall_mem_cons.1 h.uniform
    have hrest : AreRuns key more := ⟨hmore, h.changing.tail⟩
    rw [List.map_cons, List.flatten_cons, runs_append, runs_of_forall hne hkey, ih hrest]
    · rfl
    · intro c hc d hd
      obtain ⟨r', hr', hkey'⟩ := hrest.head?_flatten hd
      rw [hkey c (List.mem_of_mem_getLast? hc), hkey']
      exact (List.isChain_cons.1 h.changing).1 r' hr'

theorem eq_runs_iff {s : Text} :
    pieces = runs key s ↔ (pieces.map Prod.snd).flatten = s ∧ AreRuns key pieces := by
  constructor
  · rintro rfl
    exact ⟨flatten_runs key s, areRuns_runs key s⟩
  · rintro ⟨rfl, h⟩
    exact h.runs_flatten.symm

end Text

namespace Token

/-- The tokens make up a text, none is empty, each holds nothing but ASCII letters and digits or
nothing but other characters, as its kind says, and the kinds alternate. -/
structure Divide (tokens : List Token) (s : Text) : Prop where
  joined : (tokens.map Token.text).flatten = s
  nonempty : ∀ t ∈ tokens, t.text ≠ []
  uniform : ∀ t ∈ tokens, ∀ c ∈ t.text, c.isAlphanum = t.isAlphanumeric
  alternating : tokens.IsChain fun t u => t.kind ≠ u.kind

theorem ofChar_eq_kind_iff {t : Token} {c : Char} :
    TokenKind.ofChar c = t.kind ↔ c.isAlphanum = t.isAlphanumeric := by
  obtain ⟨kind, text⟩ := t
  cases hc : c.isAlphanum <;> cases kind <;> simp [TokenKind.ofChar, isAlphanumeric, hc]

theorem divide_map_ofRun_iff {pieces : List (TokenKind × Text)} {s : Text} :
    Divide (pieces.map ofRun) s ↔
      (pieces.map Prod.snd).flatten = s ∧ Text.AreRuns TokenKind.ofChar pieces := by
  have hkey : ∀ (r : TokenKind × Text) (c : Char),
      TokenKind.ofChar c = r.1 ↔ c.isAlphanum = (ofRun r).isAlphanumeric :=
    fun r c => ofChar_eq_kind_iff (t := ofRun r)
  constructor
  · rintro ⟨hjoined, hne, huniform, hkinds⟩
    rw [List.forall_mem_map] at hne huniform
    rw [List.map_map] at hjoined
    rw [List.isChain_map] at hkinds
    exact ⟨hjoined, fun r hr => ⟨hne r hr, fun c hc => (hkey r c).2 (huniform r hr c hc)⟩, hkinds⟩
  · rintro ⟨hjoined, huniform, hkinds⟩
    refine ⟨by rwa [List.map_map], ?_, ?_, by rwa [List.isChain_map]⟩
    · exact List.forall_mem_map.2 fun r hr => (huniform r hr).1
    · exact List.forall_mem_map.2 fun r hr c hc => (hkey r c).1 ((huniform r hr).2 c hc)

end Token

/-- The tokens of a text divide it, trimmed, and no other tokens do. -/
theorem eq_tokenize_iff {tokens : List Token} {s : Text} :
    tokens = tokenize s ↔ Token.Divide tokens (Text.trim s) := by
  obtain ⟨pieces, rfl⟩ : ∃ pieces : List (TokenKind × Text), pieces.map Token.ofRun = tokens := by
    refine ⟨tokens.map fun t => (t.kind, t.text), ?_⟩
    rw [List.map_map]
    exact List.map_id tokens
  have hinjective : Function.Injective Token.ofRun := by
    rintro ⟨kind, text⟩ ⟨kind', text'⟩ h
    cases h
    rfl
  rw [Token.divide_map_ofRun_iff, ← Text.eq_runs_iff]
  exact (List.map_injective_iff.2 hinjective).eq_iff

end VersionOrder
