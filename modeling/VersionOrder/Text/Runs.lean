import VersionOrder.Text.Blank

/-!
# Runs of like characters

A text falls into maximal runs of characters that agree under a key. Main statements: the runs
joined are the text again, no run is empty, each run's characters have its key, and a text whose
characters agree is one run.
-/

namespace VersionOrder

namespace Text

variable {κ : Type} [DecidableEq κ]

/-- The maximal runs of characters with equal keys, each with its key. -/
def runs (key : Char → κ) : Text → List (κ × Text)
  | [] => []
  | c :: rest =>
    match runs key rest with
    | [] => [(key c, [c])]
    | (k, run) :: more =>
      if key c = k then (k, c :: run) :: more else (key c, [c]) :: (k, run) :: more

@[simp]
theorem runs_nil (key : Char → κ) : runs key [] = [] := rfl

/-- The runs joined are the text. -/
theorem flatten_runs (key : Char → κ) (s : Text) :
    ((runs key s).map Prod.snd).flatten = s := by
  induction s with
  | nil => rfl
  | cons c rest ih =>
    rw [runs]
    split
    next h => simpa [h] using ih
    next k run more h =>
      rw [h] at ih
      split <;> simpa using ih

/-- Every run is non-empty and holds only characters with its key. -/
theorem forall_mem_runs (key : Char → κ) (s : Text) :
    ∀ r ∈ runs key s, r.2 ≠ [] ∧ ∀ c ∈ r.2, key c = r.1 := by
  induction s with
  | nil => simp
  | cons c rest ih =>
    rw [runs]
    split
    next => simp
    next k run more h =>
      rw [h] at ih
      have hmore : ∀ r ∈ more, r.2 ≠ [] ∧ ∀ x ∈ r.2, key x = r.1 := fun r hr =>
        ih r (List.mem_cons_of_mem _ hr)
      have hrun := ih (k, run) List.mem_cons_self
      split
      next hk => exact List.forall_mem_cons.2 ⟨by simpa [hk] using hrun.2, hmore⟩
      next => exact List.forall_mem_cons.2 ⟨by simp, List.forall_mem_cons.2 ⟨hrun, hmore⟩⟩

/-- A text whose characters all have one key is a single run. -/
theorem runs_of_forall {key : Char → κ} {s : Text} {k : κ} (hne : s ≠ [])
    (hkey : ∀ c ∈ s, key c = k) : runs key s = [(k, s)] := by
  induction s with
  | nil => exact absurd rfl hne
  | cons c rest ih =>
    have hc := hkey c List.mem_cons_self
    cases rest with
    | nil => simp [runs, hc]
    | cons d rest =>
      have hrest := ih (by simp) fun x hx => hkey x (List.mem_cons_of_mem c hx)
      rw [runs, hrest, hc]
      simp

end Text

end VersionOrder
