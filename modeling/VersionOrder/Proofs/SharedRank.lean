import VersionOrder.Proofs.PreReleaseOrder
import VersionOrder.Proofs.Spelling

/-!
# Names that share a rank

Three ranks of the Maven-like order have two names each, a long and a short one. Two such names are not
the same qualifier: code-point order decides where one meets the other, as it does between names without
a rank. Exchanging one for the other can therefore change how a version compares, but only with a
version that goes on with one of the two names at the same place, and only if everything in front of
that place ties.

## Main definitions

- `Maven.longNames`, `Maven.SharesRank`: the names with a common rank
- `Maven.principal`: a qualifier with the long name of its rank
- `Maven.Contested`: sequences that a name of the same rank tells apart
-/

namespace VersionOrder

namespace Maven

/-- The short names, each with the long name of the same rank. -/
def longNames : List (Text × Text) :=
  [("a".toList, "alpha".toList), ("b".toList, "beta".toList), ("m".toList, "milestone".toList)]

/-- Two names with a common rank: alpha and a, beta and b, or milestone and m. -/
def SharesRank (name other : Text) : Prop :=
  ∃ entry ∈ longNames, name ∈ [entry.1, entry.2] ∧ other ∈ [entry.1, entry.2]

/-- The canonical name of a qualifier, a short name replaced by the long one. -/
def principal (qualifier : Text) : Text :=
  (longNames.lookup (canonical qualifier)).getD (canonical qualifier)

/-- The first sequence agrees with the third one up to a name, where the second one goes on with another
name of the same rank; and what follows in the first one does not decide as the names do. -/
inductive Contested : List Item → List Item → List Item → Prop where
  /-- The name is the first item. -/
  | here {p q r : Text} {mine theirs third : List Item} (hsame : canonical p = canonical r)
      (hother : canonical q ≠ canonical r) (hrank : SharesRank (canonical q) (canonical r))
      (hrest : Item.compareAll order mine third ≠ Text.compare (canonical q) (canonical r)) :
      Contested (.qualifier p :: mine) (.qualifier q :: theirs) (.qualifier r :: third)
  /-- The name is a later item, and both sequences tie with the third one up to it. -/
  | later {a b : Item} {mine theirs third : List Item}
      (ha : Item.compare order a (third.head?.getD .releaseMarker) = 0)
      (hb : Item.compare order b (third.head?.getD .releaseMarker) = 0)
      (hrest : Contested mine theirs third.tail) : Contested (a :: mine) (b :: theirs) third

section Names

variable {name other p q : Text}

theorem SharesRank.principal_eq (h : SharesRank name other) : principal name = principal other := by
  obtain ⟨entry, hentry, hname, hother⟩ := h
  have hall : ∀ entry ∈ longNames, ∀ name ∈ [entry.1, entry.2], principal name = entry.2 := by decide
  exact (hall entry hentry name hname).trans (hall entry hentry other hother).symm

theorem SharesRank.symm (h : SharesRank name other) : SharesRank other name := by
  obtain ⟨entry, hentry, hname, hother⟩ := h
  exact ⟨entry, hentry, hother, hname⟩

theorem SharesRank.rank_eq (h : SharesRank name other) : rank name = rank other ∧ rank name < 0 := by
  obtain ⟨entry, hentry, hname, hother⟩ := h
  have hall : ∀ entry ∈ longNames, ∀ name ∈ [entry.1, entry.2],
      rank name = rank entry.2 ∧ rank name < 0 := by decide
  obtain ⟨hfirst, hnegative⟩ := hall entry hentry name hname
  exact ⟨hfirst.trans (hall entry hentry other hother).1.symm, hnegative⟩

theorem SharesRank.isName (h : SharesRank name other) : name.IsName := by
  obtain ⟨entry, hentry, hname, -⟩ := h
  have hall : ∀ entry ∈ longNames, ∀ name ∈ [entry.1, entry.2],
      name ≠ [] ∧ name.all Char.isAlpha = true := by decide
  obtain ⟨hne, hletters⟩ := hall entry hentry name hname
  exact ⟨hne, List.all_eq_true.1 hletters⟩

theorem SharesRank.exchange (h : SharesRank name other) (before after : Text)
    (hbefore : ∀ c ∈ before.getLast?, c.isAlpha = false)
    (hafter : ∀ c ∈ after.head?, c.isAlpha = false) :
    Text.Exchange SharesRank (before ++ (name ++ after)) (before ++ (other ++ after)) :=
  .run h.isName h.symm.isName hbefore hafter h

theorem mem_ranks_of_rank_ne_zero (h : rank name ≠ 0) : (name, rank name) ∈ ranks := by
  cases hlookup : rank? name with
  | none => exact absurd (by rw [rank, hlookup]; rfl) h
  | some r =>
    have hrank : rank name = r := by rw [rank, hlookup]; rfl
    obtain ⟨before, after, hranks, -⟩ := List.lookup_eq_some_iff.1 hlookup
    rw [hrank, hranks]
    exact List.mem_append_right _ List.mem_cons_self

/-- A rank with two names has no third one. -/
theorem eq_or_eq_of_rank_eq (h : SharesRank p q) (hne : p ≠ q) (hrank : rank name = rank p) :
    name = p ∨ name = q := by
  have hmem : (name, rank name) ∈ ranks := by
    refine mem_ranks_of_rank_ne_zero ?_
    have hnegative := h.rank_eq.2
    omega
  obtain ⟨entry, hentry, hp, hq⟩ := h
  have hall : ∀ entry ∈ longNames, ∀ p ∈ [entry.1, entry.2], ∀ ranked ∈ ranks,
      ranked.2 = rank p → ranked.1 ∈ [entry.1, entry.2] := by decide
  have hname := hall entry hentry p hp _ hmem hrank
  simp only [List.mem_cons, List.not_mem_nil, or_false] at hp hq hname
  grind

theorem mem_longNames_of_lookup {long : Text} (h : longNames.lookup name = some long) :
    (name, long) ∈ longNames := by
  obtain ⟨before, after, hnames, -⟩ := List.lookup_eq_some_iff.1 h
  rw [hnames]
  exact List.mem_append_right _ List.mem_cons_self

/-- Qualifiers with one principal name are the same qualifier or share a rank. -/
theorem principal_eq_cases (h : principal p = principal q) :
    canonical p = canonical q ∨ SharesRank (canonical p) (canonical q) := by
  rw [principal, principal] at h
  cases hp : longNames.lookup (canonical p) with
  | none =>
    cases hq : longNames.lookup (canonical q) with
    | none =>
      rw [hp, hq] at h
      exact .inl h
    | some long =>
      rw [hp, hq] at h
      obtain rfl : canonical p = long := h
      exact .inr ⟨_, mem_longNames_of_lookup hq, by simp, by simp⟩
  | some long =>
    cases hq : longNames.lookup (canonical q) with
    | none =>
      rw [hp, hq] at h
      obtain rfl : long = canonical q := h
      exact .inr ⟨_, mem_longNames_of_lookup hp, by simp, by simp⟩
    | some other =>
      rw [hp, hq] at h
      obtain rfl : long = other := h
      -- No two short names have the same long name.
      have hall : ∀ entry ∈ longNames, ∀ other ∈ longNames, entry.2 = other.2 → entry.1 = other.1 := by
        decide
      exact .inl (hall _ (mem_longNames_of_lookup hp) _ (mem_longNames_of_lookup hq) rfl)

end Names

section Items

variable {a b item : Item} {p q r : Text} {mine theirs third : List Item}

/-- The Maven-like order sees canonical names only. -/
theorem compare_qualifier_congr (h : canonical p = canonical q) (item : Item) :
    Item.compare order (.qualifier p) item = Item.compare order (.qualifier q) item := by
  cases item with
  | numeric n => rfl
  | qualifier r =>
    show compareQualifiers p r = compareQualifiers q r
    rw [compareQualifiers, compareQualifiers, h]
  | releaseMarker =>
    show compareQualifiers p [] = compareQualifiers q []
    rw [compareQualifiers, compareQualifiers, h]

theorem compareQualifiers_eq_zero_iff : compareQualifiers p r = 0 ↔ canonical p = canonical r := by
  constructor
  · intro h
    rw [compareQualifiers] at h
    split at h
    next =>
      rw [Text.compare_eq_threeWay, threeWay_eq_zero_iff] at h
      exact h
    next hrank => exact absurd (signum_eq_zero_iff.1 h) hrank
  · intro h
    rw [compareQualifiers, h, if_pos rfl, Text.compare_self]

/-- Items with one principal name are placed alike, unless they meet one of two names that share a
rank. -/
theorem compare_of_principal (h : Item.mapQualifier principal a = Item.mapQualifier principal b)
    (item : Item) :
    Item.compare order a item = Item.compare order b item ∨
      ∃ p q r, a = .qualifier p ∧ b = .qualifier q ∧ item = .qualifier r ∧
        canonical p ≠ canonical q ∧ SharesRank (canonical p) (canonical q) ∧
        (canonical r = canonical p ∨ canonical r = canonical q) := by
  cases a with
  | numeric m => cases b <;> cases h; exact .inl rfl
  | releaseMarker => cases b <;> cases h; exact .inl rfl
  | qualifier p =>
    cases b with
    | numeric n => cases h
    | releaseMarker => cases h
    | qualifier q =>
      by_cases hne : canonical p = canonical q
      · exact .inl (compare_qualifier_congr hne item)
      · have hshares := (principal_eq_cases (Item.qualifier.inj h)).resolve_left hne
        obtain ⟨hrank, hnegative⟩ := hshares.rank_eq
        cases item with
        | numeric n => exact .inl rfl
        | qualifier r =>
          by_cases hr : rank (canonical r) = rank (canonical p)
          · exact .inr ⟨p, q, r, rfl, rfl, rfl, hne, hshares, eq_or_eq_of_rank_eq hshares hne hr⟩
          · left
            show compareQualifiers p r = compareQualifiers q r
            rw [compareQualifiers, compareQualifiers, if_neg (Ne.symm hr), if_neg (by omega), hrank]
        | releaseMarker =>
          left
          show compareQualifiers p [] = compareQualifiers q []
          rw [compareQualifiers_nil, compareQualifiers_nil, if_neg (by omega), if_neg (by omega), hrank]

theorem compareAll_of_decided (h : Item.compare order a (third.head?.getD .releaseMarker) ≠ 0) :
    Item.compareAll order (a :: mine) third =
      Item.compare order a (third.head?.getD .releaseMarker) := by
  rw [Item.compareAll_eq_head]
  exact if_neg h

theorem compareAll_cons_of_tie (h : Item.compare order a (third.head?.getD .releaseMarker) = 0) :
    Item.compareAll order (a :: mine) third = Item.compareAll order mine third.tail :=
  Item.compareAll_of_tie h

theorem Contested.tie (h : Contested (a :: mine) theirs third) :
    Item.compare order a (third.head?.getD .releaseMarker) = 0 := by
  cases h with
  | here hsame _ _ _ => exact compareQualifiers_eq_zero_iff.2 hsame
  | later ha _ _ => exact ha

theorem contested_cons_iff (ha : Item.compare order a (third.head?.getD .releaseMarker) = 0)
    (hb : Item.compare order b (third.head?.getD .releaseMarker) = 0) :
    Contested (a :: mine) (b :: theirs) third ↔ Contested mine theirs third.tail := by
  constructor
  · intro h
    cases h with
    | here _ hother _ _ => exact absurd (compareQualifiers_eq_zero_iff.1 hb) hother
    | later _ _ hrest => exact hrest
  · intro h
    exact .later ha hb h

/-- Where the third sequence has the name of one of two, the names decide for the other one and the rest
decides for this one. -/
theorem compareAll_eq_iff_of_meet (hsame : canonical p = canonical r)
    (hother : canonical q ≠ canonical r) (hrank : SharesRank (canonical q) (canonical r)) :
    Item.compareAll order (.qualifier q :: theirs) (.qualifier r :: third) =
        Item.compareAll order (.qualifier p :: mine) (.qualifier r :: third) ↔
      ¬(Contested (.qualifier p :: mine) (.qualifier q :: theirs) (.qualifier r :: third) ∨
        Contested (.qualifier q :: theirs) (.qualifier p :: mine) (.qualifier r :: third)) := by
  have hnames : compareQualifiers q r = Text.compare (canonical q) (canonical r) :=
    if_pos hrank.rank_eq.1
  have hdiffer : compareQualifiers q r ≠ 0 := fun h => hother (compareQualifiers_eq_zero_iff.1 h)
  have hdecided : Item.compareAll order (.qualifier q :: theirs) (.qualifier r :: third) =
      compareQualifiers q r := compareAll_of_decided hdiffer
  have htheirs := hdecided.trans hnames
  have hmine : Item.compareAll order (.qualifier p :: mine) (.qualifier r :: third) =
      Item.compareAll order mine third :=
    compareAll_cons_of_tie (compareQualifiers_eq_zero_iff.2 hsame)
  rw [htheirs, hmine]
  constructor
  · rintro heq (h | h)
    · cases h with
      | here _ _ _ hrest => exact hrest heq.symm
      | later _ hb _ => exact hdiffer hb
    · exact hdiffer h.tie
  · intro hnone
    refine Classical.not_not.1 fun hne => hnone (.inl ?_)
    exact .here hsame hother hrank (Ne.symm hne)

/-- Sequences with the same principal names compare alike with a third one exactly if that does not
contest one of them against the other. -/
theorem compareAll_eq_iff
    (h : theirs.map (Item.mapQualifier principal) = mine.map (Item.mapQualifier principal))
    (third : List Item) :
    Item.compareAll order theirs third = Item.compareAll order mine third ↔
      ¬(Contested mine theirs third ∨ Contested theirs mine third) := by
  induction mine generalizing theirs third with
  | nil =>
    obtain rfl := List.map_eq_nil_iff.1 h
    refine iff_of_true rfl ?_
    rintro (h | h) <;> cases h
  | cons a mine ih =>
    obtain ⟨b, theirs, rfl, hitem, hrest⟩ := List.map_eq_cons_iff.1 h
    rcases compare_of_principal hitem (third.head?.getD .releaseMarker) with heq | hmeet
    · by_cases htie : Item.compare order a (third.head?.getD .releaseMarker) = 0
      · have htie' := heq.trans htie
        rw [compareAll_cons_of_tie htie, compareAll_cons_of_tie htie', contested_cons_iff htie htie',
          contested_cons_iff htie' htie]
        exact ih hrest third.tail
      · -- The first items decide alike, and nothing behind them matters.
        refine iff_of_true ?_ ?_
        · rw [compareAll_of_decided htie, compareAll_of_decided (heq ▸ htie), heq]
        · rintro (h | h)
          · exact htie h.tie
          · exact htie (heq ▸ h.tie)
    · obtain ⟨q, p, r, rfl, rfl, hthird, hne, hshares, hr⟩ := hmeet
      rw [Item.eq_cons_of_head?_getD (by simp) hthird]
      rcases hr with hr | hr
      · rw [eq_comm, or_comm]
        exact compareAll_eq_iff_of_meet hr.symm (hr ▸ hne.symm) (hr ▸ hshares.symm)
      · exact compareAll_eq_iff_of_meet hr.symm (hr ▸ hne) (hr ▸ hshares)

theorem Contested.exists_name (h : Contested mine theirs third) :
    ∃ r name, .qualifier r ∈ third ∧ SharesRank (canonical r) name := by
  induction h with
  | @here p q r mine theirs third _ _ hrank _ => exact ⟨r, _, List.mem_cons_self, hrank.symm⟩
  | later _ _ _ ih =>
    obtain ⟨r, name, hmem, hshares⟩ := ih
    exact ⟨r, name, List.mem_of_mem_tail hmem, hshares⟩

end Items

section Texts

variable {s t : Text}

theorem map_principal_scan (h : Relation.ReflTransGen (Text.Exchange SharesRank) s t) :
    (Item.scan t).map (Item.mapQualifier principal) =
      (Item.scan s).map (Item.mapQualifier principal) := by
  induction h with
  | refl => rfl
  | tail _ hstep ih =>
    obtain ⟨front, name, other, back, hshares, hbefore, hafter⟩ := hstep.scan
    rw [← ih, hbefore, hafter]
    simp only [List.map_append, List.map_cons, Item.mapQualifier, hshares.principal_eq]

theorem map_principal_items (h : Relation.ReflTransGen (Text.Exchange SharesRank) s t) :
    (items ⟨t⟩).map (Item.mapQualifier principal) =
      (items ⟨s⟩).map (Item.mapQualifier principal) := by
  rw [items_eq, items_eq, ← Item.trimEnd_map_mapQualifier, ← Item.trimEnd_map_mapQualifier,
    map_principal_scan h]

/-- However often names that share a rank are exchanged for each other, a version compares with another
one as before exactly if the other one contests neither spelling against the other; and it does not if
it has none of these names. -/
theorem compare_exchanged (h : Relation.ReflTransGen (Text.Exchange SharesRank) s t) (u : Version) :
    (compare ⟨t⟩ u = compare ⟨s⟩ u ↔
      ¬(Contested (items ⟨s⟩) (items ⟨t⟩) (items u) ∨
        Contested (items ⟨t⟩) (items ⟨s⟩) (items u))) ∧
    ((∀ run ∈ Text.letterRuns u.text, ∀ name, ¬SharesRank (canonical run) name) →
      compare ⟨t⟩ u = compare ⟨s⟩ u) := by
  have hiff := compareAll_eq_iff (map_principal_items h) (items u)
  refine ⟨hiff, fun hnames => hiff.2 ?_⟩
  have hnone : ∀ {mine theirs}, ¬Contested mine theirs (items u) := by
    intro mine theirs hcontested
    obtain ⟨r, name, hmem, hshares⟩ := hcontested.exists_name
    exact hnames r (mem_letterRuns_of_mem_items hmem) name hshares
  exact not_or.2 ⟨hnone, hnone⟩

/-- Two exchanges, which a release candidate does not notice and an alpha version does. -/
theorem compare_exchanged_twice :
    Relation.ReflTransGen (Text.Exchange SharesRank) "1.0-alpha2.m".toList "1.0-a2.milestone".toList ∧
      compare (Version.ofString "1.0-a2.milestone") (Version.ofString "1.0-rc1") =
        compare (Version.ofString "1.0-alpha2.m") (Version.ofString "1.0-rc1") ∧
      (Contested (items (.ofString "1.0-alpha2.m")) (items (.ofString "1.0-a2.milestone"))
          (items (.ofString "1.0-Alpha1")) ∨
        Contested (items (.ofString "1.0-a2.milestone")) (items (.ofString "1.0-alpha2.m"))
          (items (.ofString "1.0-Alpha1"))) := by
  have halphas : SharesRank "alpha".toList "a".toList :=
    ⟨("a".toList, "alpha".toList), by decide, by decide, by decide⟩
  have hmilestones : SharesRank "m".toList "milestone".toList :=
    ⟨("m".toList, "milestone".toList), by decide, by decide, by decide⟩
  have hfirst : Text.Exchange SharesRank "1.0-alpha2.m".toList "1.0-a2.m".toList :=
    halphas.exchange "1.0-".toList "2.m".toList (by simp) (by simp)
  have hsecond : Text.Exchange SharesRank "1.0-a2.m".toList "1.0-a2.milestone".toList :=
    hmilestones.exchange "1.0-a2.".toList [] (by simp) (by simp)
  have hsteps : Relation.ReflTransGen (Text.Exchange SharesRank) "1.0-alpha2.m".toList
      "1.0-a2.milestone".toList := (Relation.ReflTransGen.single hfirst).tail hsecond
  obtain ⟨-, hcandidate⟩ := compare_exchanged hsteps (Version.ofString "1.0-rc1")
  obtain ⟨halpha, -⟩ := compare_exchanged hsteps (Version.ofString "1.0-Alpha1")
  have hruns : Text.letterRuns (Version.ofString "1.0-rc1").text = ["rc".toList] := by decide
  have hdiffer : compare (Version.ofString "1.0-a2.milestone") (Version.ofString "1.0-Alpha1") ≠
      compare (Version.ofString "1.0-alpha2.m") (Version.ofString "1.0-Alpha1") := by decide
  refine ⟨hsteps, hcandidate ?_, Classical.not_not.1 fun hnone => hdiffer (halpha.2 hnone)⟩
  rw [hruns, List.forall_mem_singleton]
  rintro name ⟨entry, hentry, hname, -⟩
  revert entry
  decide

/-- Names that share a rank are not the same qualifier: the short name comes before the long one, and the
numbers behind them do not matter. -/
theorem not_compare_exchanged :
    ¬∀ (s t : Text) (u : Version), Relation.ReflTransGen (Text.Exchange SharesRank) s t →
      compare ⟨t⟩ u = compare ⟨s⟩ u := by
  intro h
  have halphas : SharesRank "alpha".toList "a".toList :=
    ⟨("a".toList, "alpha".toList), by decide, by decide, by decide⟩
  have hstep : Text.Exchange SharesRank "1.0-alpha2".toList "1.0-a2".toList :=
    halphas.exchange "1.0-".toList ['2'] (by simp) (by simp)
  have hsame : compare (Version.ofString "1.0-a2") (Version.ofString "1.0-alpha1") =
      compare (Version.ofString "1.0-alpha2") (Version.ofString "1.0-alpha1") :=
    h "1.0-alpha2".toList "1.0-a2".toList (Version.ofString "1.0-alpha1") (.single hstep)
  have hshort : compare (Version.ofString "1.0-a2") (Version.ofString "1.0-alpha1") = -1 := by decide
  have hlong : compare (Version.ofString "1.0-alpha2") (Version.ofString "1.0-alpha1") = 1 := by decide
  omega

end Texts

end Maven

end VersionOrder
