import Mathlib.Data.List.DropRight
import VersionOrder.Text.Runs

/-!
# Words of a text

The words of a text are its runs without the separators between them. Where characters of different
keys meet, a text can be cut without changing its runs, and before a separator without changing its
words; separators at its ends add none. The words before the first separator that holds a certain
character are the words of the text before that character.

## Main definitions

- `Text.words`: the runs of a text that are no separators
-/

namespace VersionOrder

namespace Text

variable {κ : Type} [DecidableEq κ] {key : Char → κ} {separator : κ} {s t : Text}

/-- The runs of a text with another key than that of separators. -/
def words (key : Char → κ) (separator : κ) (s : Text) : List (κ × Text) :=
  (runs key s).filter fun r => r.1 ≠ separator

/-- The first run has the key of the first character. -/
theorem head?_runs (key : Char → κ) (s : Text) :
    (runs key s).head?.map Prod.fst = s.head?.map key := by
  cases s with
  | nil => rfl
  | cons c rest =>
    rw [runs]
    split
    next => rfl
    next => split <;> simp_all

/-- Where two texts meet in characters of different keys, the runs of the whole are the runs of
both. -/
theorem runs_append (h : ∀ c ∈ s.getLast?, ∀ d ∈ t.head?, key c ≠ key d) :
    runs key (s ++ t) = runs key s ++ runs key t := by
  induction s with
  | nil => rfl
  | cons c s ih =>
    cases s with
    | nil =>
      -- The last character of the first text starts a run of its own.
      cases hruns : runs key t with
      | nil => simp [runs, hruns]
      | cons r more =>
        have hhead := head?_runs key t
        rw [hruns] at hhead
        obtain ⟨d, hd, hkey⟩ := Option.map_eq_some_iff.1 hhead.symm
        have hne : key c ≠ r.1 := hkey ▸ h c rfl d hd
        simp [runs, hruns, hne]
    | cons c' s =>
      have hrest := ih fun a ha d hd => h a (by rwa [List.getLast?_cons_cons]) d hd
      rw [List.cons_append, runs, hrest, runs.eq_2 key c (c' :: s)]
      cases hruns : runs key (c' :: s) with
      | nil =>
        have hhead := head?_runs key (c' :: s)
        simp [hruns] at hhead
      | cons r more => simp only [List.cons_append]; split <;> rfl

/-- A text of separators has no words. -/
theorem words_of_forall (h : ∀ c ∈ s, key c = separator) : words key separator s = [] := by
  cases s with
  | nil => rfl
  | cons c rest =>
    rw [words, runs_of_forall (by simp) h]
    simp

/-- A separator in front of a text adds no word. -/
theorem words_cons {c : Char} (hc : key c = separator) :
    words key separator (c :: s) = words key separator s := by
  subst hc
  simp only [words, runs]
  split
  next hruns => simp [hruns]
  next k run more hruns =>
    rw [hruns]
    by_cases hk : key c = k
    · simp [hk]
    · simp [hk]

/-- Separators in front of a text add no word. -/
theorem words_append_left (hs : ∀ c ∈ s, key c = separator) :
    words key separator (s ++ t) = words key separator t := by
  induction s with
  | nil => rfl
  | cons c s ih =>
    obtain ⟨hc, hrest⟩ := List.forall_mem_cons.1 hs
    rw [List.cons_append, words_cons hc, ih hrest]

/-- Every text ends in separators, possibly none, after a character that is none. -/
theorem exists_append_separators (key : Char → κ) (separator : κ) (s : Text) :
    ∃ front back, s = front ++ back ∧ (∀ c ∈ back, key c = separator) ∧
      ∀ c ∈ front.getLast?, key c ≠ separator := by
  refine ⟨s.rdropWhile fun c => key c = separator, s.rtakeWhile fun c => key c = separator,
    List.rdropWhile_append_rtakeWhile.symm, ?_, ?_⟩
  · intro c hc
    simpa using List.mem_rtakeWhile_imp hc
  · intro c hc
    obtain ⟨hne, rfl⟩ := List.mem_getLast?_eq_getLast hc
    simpa using List.rdropWhile_last_not _ s hne

/-- Before a separator a text can be cut without changing its words. -/
theorem words_append (ht : ∀ d ∈ t.head?, key d = separator) :
    words key separator (s ++ t) = words key separator s ++ words key separator t := by
  obtain ⟨front, back, rfl, hback, hfront⟩ := exists_append_separators key separator s
  have hcut : ∀ rest : Text, (∀ d ∈ rest.head?, key d = separator) →
      words key separator (front ++ rest) =
        words key separator front ++ words key separator rest := by
    intro rest hrest
    rw [words, runs_append, List.filter_append]
    · rfl
    · intro c hc d hd
      rw [hrest d hd]
      exact hfront c hc
  have hjoint : ∀ d ∈ (back ++ t).head?, key d = separator := by
    intro d hd
    cases back with
    | nil => exact ht d hd
    | cons b back => exact hback d (List.mem_of_mem_head? hd)
  rw [List.append_assoc, hcut _ hjoint, words_append_left hback,
    hcut back fun d hd => hback d (List.mem_of_mem_head? hd), words_of_forall hback,
    List.append_nil]

/-- Separators after a text add no word. -/
theorem words_append_right (ht : ∀ c ∈ t, key c = separator) :
    words key separator (s ++ t) = words key separator s := by
  rw [words_append fun d hd => ht d (List.mem_of_mem_head? hd), words_of_forall ht,
    List.append_nil]

/-- A run of separators goes on to the next character that is none. -/
theorem exists_runs_cons {p : Char} (hs : ∀ c ∈ s, key c = key p) (t : Text) :
    ∃ run more, runs key (s ++ p :: t) = (key p, run) :: more ∧ p ∈ run := by
  let isLike : Char → Bool := fun c => key c = key p
  have hlike : ∀ c ∈ s ++ p :: t.takeWhile isLike, key c = key p := by
    intro c hc
    rcases List.mem_append.1 hc with hc | hc
    · exact hs c hc
    · rcases List.mem_cons.1 hc with rfl | hc
      · rfl
      · simpa [isLike] using List.mem_takeWhile_imp hc
  have hcut : s ++ p :: t = (s ++ p :: t.takeWhile isLike) ++ t.dropWhile isLike := by
    rw [List.append_assoc, List.cons_append, List.takeWhile_append_dropWhile]
  refine ⟨s ++ p :: t.takeWhile isLike, runs key (t.dropWhile isLike), ?_, by simp⟩
  rw [hcut, runs_append, runs_of_forall (by simp) hlike]
  · rfl
  · intro c hc d hd
    rw [hlike c (List.mem_of_mem_getLast? hc)]
    have hd' := List.head?_dropWhile_not isLike t
    rw [hd] at hd'
    simpa [isLike, eq_comm] using hd'

/-- Cutting a text at a character that does not occur in it leaves all of it. -/
theorem takeWhile_ne_eq_self {p : Char} (hp : p ∉ s) : (s.takeWhile fun c => c ≠ p) = s := by
  rw [List.takeWhile_eq_self_iff]
  intro c hc
  simpa using fun hcp : c = p => hp (hcp ▸ hc)

theorem takeWhile_append_of_mem {p : Char} (hp : p ∈ s) (t : Text) :
    ((s ++ t).takeWhile fun c => c ≠ p) = s.takeWhile fun c => c ≠ p := by
  obtain ⟨front, back, rfl, hfront⟩ := List.eq_append_cons_of_mem hp
  have hkept : ∀ c ∈ front, decide (c ≠ p) = true := by
    intro c hc
    simpa using fun hcp : c = p => hfront (hcp ▸ hc)
  rw [List.append_assoc, List.takeWhile_append_of_pos hkept, List.takeWhile_append_of_pos hkept]
  simp

theorem takeWhile_append_of_notMem {p : Char} (hp : p ∉ s) (t : Text) :
    ((s ++ t).takeWhile fun c => c ≠ p) = s ++ t.takeWhile fun c => c ≠ p := by
  refine List.takeWhile_append_of_pos fun c hc => ?_
  simpa using fun hcp : c = p => hp (hcp ▸ hc)

/-- Leaving out all runs from the first one on that holds a certain separator is cutting the text at
that separator. -/
theorem filter_takeWhile_runs {p : Char} {stop : κ × Text → Bool}
    (hgo : ∀ r, p ∉ r.2 → stop r = false) (hstop : ∀ run, p ∈ run → stop (key p, run) = true)
    (s : Text) :
    ((runs key s).takeWhile fun r => !stop r).filter (fun r => r.1 ≠ key p) =
      words key (key p) (s.takeWhile fun c => c ≠ p) := by
  have hgoes : ∀ u : Text, p ∉ u → ∀ r ∈ runs key u, (!stop r) = true := by
    intro u hu r hr
    rw [hgo r fun hp => hu ?_]
    · rfl
    · rw [← flatten_runs key u]
      exact List.mem_flatten.2 ⟨r.2, List.mem_map_of_mem hr, hp⟩
  by_cases hp : p ∈ s
  · obtain ⟨u, v, rfl, hu⟩ := List.eq_append_cons_of_mem hp
    obtain ⟨front, back, rfl, hback, hfront⟩ := exists_append_separators key (key p) u
    have hfrontNot : p ∉ front := fun h => hu (List.mem_append_left back h)
    -- The run that the separator stands in begins where the separators before it begin.
    obtain ⟨run, more, hruns, hrun⟩ := exists_runs_cons hback v
    have hcut : runs key (front ++ (back ++ p :: v)) = runs key front ++ (key p, run) :: more := by
      rw [runs_append, hruns]
      intro c hc d hd
      have hkey : key d = key p := by
        have hhead := head?_runs key (back ++ p :: v)
        rw [hruns, hd] at hhead
        exact (Option.some.inj hhead).symm
      rw [hkey]
      exact hfront c hc
    have hbefore : ((front ++ back) ++ p :: v).takeWhile (fun c => c ≠ p) = front ++ back := by
      rw [List.takeWhile_append, takeWhile_ne_eq_self hu]
      simp
    rw [hbefore, words_append_right hback, List.append_assoc, hcut,
      List.takeWhile_append_of_pos (hgoes front hfrontNot), List.takeWhile_cons_of_neg,
      List.append_nil]
    · rfl
    · simp [hstop run hrun]
  · rw [takeWhile_ne_eq_self hp, List.takeWhile_eq_self_iff.2 (hgoes s hp)]
    rfl

end Text

end VersionOrder
