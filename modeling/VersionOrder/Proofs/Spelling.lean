import Mathlib
import VersionOrder.Proofs.FamilyOrder
import VersionOrder.Proofs.Scan

/-!
# Spellings of a qualifier

The Maven-like order sees the canonical names of qualifiers only, and two qualifiers that differ in case
or are other names of one another have the same canonical name. So a version text may be respelled, one
step after another, and compares with every other version as before: a change of case leaves the classes
of all characters alone, and another name in place of a whole run of letters is a single other item.

## Main definitions

- `Text.Exchange`: a whole run of letters exchanged for another one
- `Maven.Respelling`: a change of case, or another name in place of a qualifier
- `Maven.canonicalItems`: the items of a text with canonical names
-/

namespace VersionOrder

theorem zipPadded_map {α β : Type} (f : α → β) (pad : α) (left right : List α) :
    zipPadded (f pad) (left.map f) (right.map f) = (zipPadded pad left right).map (Prod.map f f) := by
  induction left generalizing right with
  | nil => simp [zipPadded, Function.comp_def]
  | cons a left ih =>
    cases right with
    | nil => simp [zipPadded, Function.comp_def]
    | cons b right => simp [zipPadded, ih]

namespace Item

/-- An item with its qualifier, if it is one, rewritten. -/
def mapQualifier (f : Text → Text) : Item → Item
  | .qualifier q => .qualifier (f q)
  | item => item

theorem trimEnd_map_mapQualifier (f : Text → Text) (items : List Item) :
    trimEnd (items.map (mapQualifier f)) = (trimEnd items).map (mapQualifier f) := by
  have hsame : isNegligible ∘ mapQualifier f = isNegligible := by
    funext item
    cases item <;> rfl
  rw [trimEnd, ← List.map_reverse, List.dropWhile_map, hsame, ← List.map_reverse, trimEnd]

/-- Sequences are compared through what one order makes of the items of another one. -/
theorem compareAll_map {order other : QualifierOrder} {f : Item → Item}
    (hend : f .releaseMarker = .releaseMarker)
    (h : ∀ a b, compare order a b = compare other (f a) (f b)) (left right : List Item) :
    compareAll order left right = compareAll other (left.map f) (right.map f) := by
  have hpairs := zipPadded_map f .releaseMarker left right
  rw [hend] at hpairs
  rw [compareAll, compareAll, hpairs, List.map_map]
  congr 1
  exact List.map_congr_left fun ⟨a, b⟩ _ => h a b

end Item

section Case

variable {c : Char} {q : Text}

theorem CharClass.ofChar_toLower (c : Char) : ofChar c.toLower = ofChar c := by
  by_cases hupper : c.isUpper = true
  · have halpha : c.isAlpha = true := Bool.or_eq_true_iff.2 (.inl hupper)
    rw [ofChar_eq_letter_iff.2 halpha, ofChar_eq_letter_iff, Char.isAlpha_toLower_eq_isAlpha]
    exact halpha
  · rw [Char.toLower_eq_of_not_isUpper hupper]

theorem toLower_of_isDigit (h : c.isDigit = true) : c.toLower = c := by
  refine Char.toLower_eq_of_not_isUpper fun hupper => ?_
  have hletter := CharClass.not_isDigit_of_isAlpha (Bool.or_eq_true_iff.2 (.inl hupper))
  rw [h] at hletter
  cases hletter

namespace Text

theorem lower_of_letters (h : ∀ c ∈ q, c.isAlpha = true) : lower q = q.map Char.toLower := by
  have hascii : ∀ c ∈ q, c.toNat < 0x80 := by
    intro c hc
    have hletter := CharClass.toNat_of_isAlpha (h c hc)
    omega
  have hsigma : 'Σ' ∉ q := fun hmem => absurd (hascii _ hmem) (by decide)
  rw [lower_eq_flatMap hsigma, List.map_eq_flatMap]
  exact List.flatMap_congr fun c hc => if_pos (hascii c hc)

variable {κ : Type} [DecidableEq κ] {key : Char → κ} {f : Char → Char}

/-- A rewriting of the characters that keeps their keys keeps the runs. -/
theorem runs_map (hf : ∀ c, key (f c) = key c) (s : Text) :
    runs key (s.map f) = (runs key s).map (Prod.map id (List.map f)) := by
  induction s with
  | nil => rfl
  | cons c rest ih =>
    rw [List.map_cons, runs, ih, runs]
    cases runs key rest with
    | nil => simp [hf]
    | cons r more =>
      obtain ⟨k, run⟩ := r
      by_cases h : key c = k <;> simp [hf, h]

end Text

end Case

namespace Maven

variable {s t : Text}

theorem canonical_map_toLower {q : Text} (h : ∀ c ∈ q, c.isAlpha = true) :
    canonical (q.map Char.toLower) = canonical q := by
  have hletters : ∀ c ∈ q.map Char.toLower, c.isAlpha = true := by
    rw [List.forall_mem_map]
    intro c hc
    rw [Char.isAlpha_toLower_eq_isAlpha]
    exact h c hc
  have hlower : Text.lower (q.map Char.toLower) = Text.lower q := by
    rw [Text.lower_of_letters hletters, Text.lower_of_letters h, List.map_map]
    exact List.map_congr_left fun c _ => Char.toLower_toLower_eq_toLower c
  rw [canonical, hlower, canonical]

/-- The Maven-like order on canonical names. -/
def canonicalOrder : QualifierOrder where
  compare p q := if rank p = rank q then Text.compare p q else signum (rank p) (rank q)
  compareToRelease q := if rank q = 0 then Text.compare q [] else signum (rank q) 0

/-- The items of a text with canonical names, zeros at the end included. -/
def canonicalItems (s : Text) : List Item :=
  (Item.scan s).map (Item.mapQualifier canonical)

theorem compare_eq_compareAll (v w : Version) :
    compare v w = Item.compareAll canonicalOrder (Item.trimEnd (canonicalItems v.text))
      (Item.trimEnd (canonicalItems w.text)) := by
  have hitems : ∀ a b, Item.compare order a b = Item.compare canonicalOrder
      (Item.mapQualifier canonical a) (Item.mapQualifier canonical b) := by
    intro a b
    cases a <;> cases b <;> rfl
  rw [compare, items_eq, items_eq, Item.compareAll_map rfl hitems, canonicalItems, canonicalItems,
    Item.trimEnd_map_mapQualifier, Item.trimEnd_map_mapQualifier]

theorem compare_congr (h : canonicalItems s = canonicalItems t) (u : Version) :
    compare ⟨s⟩ u = compare ⟨t⟩ u ∧ compare u ⟨s⟩ = compare u ⟨t⟩ := by
  constructor
  · rw [compare_eq_compareAll, h, ← compare_eq_compareAll]
  · rw [compare_eq_compareAll, h, ← compare_eq_compareAll]

/-- A run of letters or digits writes the same canonical item in lower case. -/
theorem mapQualifier_ofClassRun {k : CharClass} {run : Text} (hk : k ≠ .other)
    (hrun : ∀ c ∈ run, CharClass.ofChar c = k) :
    Item.mapQualifier canonical (Item.ofClassRun (k, run.map Char.toLower)) =
      Item.mapQualifier canonical (Item.ofClassRun (k, run)) := by
  cases k with
  | digit =>
    have hsame : run.map Char.toLower = run := by
      refine (List.map_congr_left fun c hc => ?_).trans (List.map_id run)
      exact toLower_of_isDigit (CharClass.ofChar_eq_digit_iff.1 (hrun c hc))
    rw [hsame]
  | letter =>
    have hletters : ∀ c ∈ run, c.isAlpha = true := fun c hc =>
      CharClass.ofChar_eq_letter_iff.1 (hrun c hc)
    exact congrArg Item.qualifier (canonical_map_toLower hletters)
  | other => exact absurd rfl hk

theorem canonicalItems_map_toLower (s : Text) : canonicalItems (s.map Char.toLower) = canonicalItems s := by
  rw [canonicalItems, canonicalItems, ← Item.map_ofClassRun_words, ← Item.map_ofClassRun_words,
    Text.words, Text.words, Text.runs_map CharClass.ofChar_toLower, List.filter_map, List.map_map,
    List.map_map, List.map_map]
  refine List.map_congr_left fun r hr => ?_
  obtain ⟨hmem, hkept⟩ := List.mem_filter.1 hr
  obtain ⟨-, hclass⟩ := Text.forall_mem_runs CharClass.ofChar s r hmem
  exact mapQualifier_ofClassRun (of_decide_eq_true hkept) hclass

end Maven

/-- A whole run of letters, which goes on to neither side, is exchanged for another one. -/
inductive Text.Exchange (allowed : Text → Text → Prop) : Text → Text → Prop where
  | run {before name other after : Text} (hname : name.IsName) (hother : other.IsName)
    (hbefore : ∀ c ∈ before.getLast?, c.isAlpha = false)
    (hafter : ∀ c ∈ after.head?, c.isAlpha = false) (h : allowed name other) :
    Exchange allowed (before ++ (name ++ after)) (before ++ (other ++ after))

theorem Text.Exchange.scan {allowed : Text → Text → Prop} {s t : Text} (h : Exchange allowed s t) :
    ∃ front name other back, allowed name other ∧
      Item.scan s = front ++ .qualifier name :: back ∧
      Item.scan t = front ++ .qualifier other :: back := by
  cases h with
  | @run before name other after hname hother hbefore hafter hallowed =>
    exact ⟨Item.scan before, name, other, Item.scan after, hallowed,
      Item.scan_append_name hname hbefore hafter, Item.scan_append_name hother hbefore hafter⟩

namespace Maven

/-- Names for the same qualifier: of release candidates, and of plain releases. -/
def synonyms : List (List Text) :=
  [["cr".toList, "rc".toList], ["ga".toList, "final".toList, "release".toList]]

/-- Two names for the same qualifier. -/
def Synonymous (name other : Text) : Prop :=
  ∃ names ∈ synonyms, name ∈ names ∧ other ∈ names

/-- One step of respelling a version text. -/
inductive Respelling : Text → Text → Prop where
  /-- Any ASCII letters change their case. -/
  | letterCase {s t : Text} (h : s.map Char.toLower = t.map Char.toLower) : Respelling s t
  /-- A whole run of letters is replaced by another name for the same qualifier. -/
  | synonym {s t : Text} (h : Text.Exchange Synonymous s t) : Respelling s t

theorem Synonymous.canonical_eq {name other : Text} (h : Synonymous name other) :
    canonical name = canonical other := by
  obtain ⟨names, hnames, hname, hother⟩ := h
  have hall : ∀ names ∈ synonyms, ∀ name ∈ names, ∀ other ∈ names,
      canonical name = canonical other := by decide
  exact hall names hnames name hname other hother

theorem Respelling.canonicalItems_eq {s t : Text} (h : Respelling s t) :
    canonicalItems s = canonicalItems t := by
  cases h with
  | letterCase hcase =>
    rw [← canonicalItems_map_toLower s, hcase, canonicalItems_map_toLower]
  | synonym hexchange =>
    obtain ⟨front, name, other, back, hsynonymous, hs, ht⟩ := hexchange.scan
    simp only [canonicalItems, hs, ht, List.map_append, List.map_cons, Item.mapQualifier,
      hsynonymous.canonical_eq]

/-- However often a version text is respelled, it compares with every version as before. -/
theorem compare_respelled {s t : Text} (h : Relation.ReflTransGen Respelling s t) (u : Version) :
    compare ⟨t⟩ u = compare ⟨s⟩ u ∧ compare u ⟨t⟩ = compare u ⟨s⟩ := by
  have hitems : canonicalItems t = canonicalItems s := by
    induction h with
    | refl => rfl
    | tail _ hstep ih => rw [← hstep.canonicalItems_eq, ih]
  exact compare_congr hitems u

/-- A release candidate without separators around it, and a second name behind it. -/
theorem compare_respelled_candidate :
    Relation.ReflTransGen Respelling "1.0CR2-Ga".toList "1.0rc2-FINAL".toList ∧
      compare (Version.ofString "1.0rc2-FINAL") (Version.ofString "1.0-rc10") =
        compare (Version.ofString "1.0CR2-Ga") (Version.ofString "1.0-rc10") := by
  have hcandidate : Text.Exchange Synonymous ("1.0".toList ++ ("cr".toList ++ "2-ga".toList))
      ("1.0".toList ++ ("rc".toList ++ "2-ga".toList)) :=
    .run ⟨by simp, List.all_eq_true.1 rfl⟩ ⟨by simp, List.all_eq_true.1 rfl⟩ (by simp) (by simp)
      ⟨["cr".toList, "rc".toList], by decide, by decide, by decide⟩
  have hrelease : Text.Exchange Synonymous ("1.0rc2-".toList ++ ("ga".toList ++ []))
      ("1.0rc2-".toList ++ ("final".toList ++ [])) :=
    .run ⟨by simp, List.all_eq_true.1 rfl⟩ ⟨by simp, List.all_eq_true.1 rfl⟩ (by simp) (by simp)
      ⟨["ga".toList, "final".toList, "release".toList], by decide, by decide, by decide⟩
  have hlower : Respelling "1.0CR2-Ga".toList "1.0cr2-ga".toList := .letterCase (by decide)
  have hupper : Respelling "1.0rc2-final".toList "1.0rc2-FINAL".toList := .letterCase (by decide)
  have hsteps : Relation.ReflTransGen Respelling "1.0CR2-Ga".toList "1.0rc2-FINAL".toList :=
    (((Relation.ReflTransGen.single hlower).tail (.synonym hcandidate)).tail
      (.synonym hrelease)).tail hupper
  obtain ⟨hleft, -⟩ := compare_respelled hsteps (Version.ofString "1.0-rc10")
  exact ⟨hsteps, hleft⟩

end Maven

end VersionOrder
