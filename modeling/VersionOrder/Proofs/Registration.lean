import Mathlib.Data.List.Find
import Mathlib.Data.List.Nodup
import VersionOrder.Proofs.Trimming
import VersionOrder.Registry

/-!
# Runs of registrations

A registry grows by calls that may fail, and what it holds after any number of them is what it held
before, followed by the schemes of the calls that succeeded. No two of these share a key, so that a
code finds one scheme at most, and it finds that scheme ever after.

The look-up of a code is written more than once. All of its forms agree, but for the one that may
be given a registry without schemes and then looks among those that are built in.

## Main definitions

- `Registry.Call`: a call that asks for one more scheme
- `Registry.run`: a registry after some calls
- `Registry.accepted`: the schemes of the calls that succeed
- `Registry.keys`: what the registered codes are told apart by
- `Registry.LookupsAgree`: a code is looked up to the same effect in all ways
-/

namespace VersionOrder

namespace Text

theorem lowerChar_ne_nil (c : Char) : lowerChar c ≠ [] := by
  unfold lowerChar
  split
  · simp
  · split <;> simp

/-- Lower case drops no character. -/
theorem lower_eq_nil_iff {s : Text} : lower s = [] ↔ s = [] := by
  constructor
  · intro h
    cases s with
    | nil => rfl
    | cons c rest =>
      have hfirst := (List.append_eq_nil_iff.1 h).1
      split at hfirst
      · cases hfirst
      · exact absurd hfirst (lowerChar_ne_nil c)
  · rintro rfl
    rfl

end Text

namespace Scheme

/-- The blank codes are those with an empty key. -/
theorem key_eq_nil_iff {code : String} : key code = [] ↔ Text.allBlank code.toList = true := by
  rw [key, Text.lower_eq_nil_iff, Text.trim_eq_nil_iff]

theorem key_ne_nil_iff {code : String} : key code ≠ [] ↔ Text.allBlank code.toList = false := by
  rw [ne_eq, key_eq_nil_iff, Bool.not_eq_true]

/-- A scheme that can be made has the code it is made with, which is not blank. -/
theorem code_of_make {code : String} {comparator? : Option Comparator} {layout : Layout}
    {style : Style} {codec? : Option Codec} {scheme : Scheme}
    (h : make code comparator? layout style codec? = .ok scheme) :
    scheme.code = code ∧ Text.allBlank code.toList = false := by
  unfold make at h
  split at h
  next => cases h
  next hblank =>
    cases comparator? with
    | none => cases h
    | some comparator =>
      cases h
      exact ⟨rfl, Bool.not_eq_true _ ▸ hblank⟩

end Scheme

namespace Registry

/-- A call that asks for one more scheme. -/
inductive Call where
  | add (scheme : Scheme)
  | register (code : String) (comparator? : Option Comparator) (layout : Layout) (style : Style)
    (codec? : Option Codec)

/-- The scheme that a call is about. -/
def Call.scheme : Call → Except Fault Scheme
  | .add scheme => .ok scheme
  | .register code comparator? layout style codec? =>
    Scheme.make code comparator? layout style codec?

/-- What becomes of a registry by a call. -/
def perform (registry : Registry) : Call → Except Fault Registry
  | .add scheme => registry.add scheme
  | .register code comparator? layout style codec? =>
    registry.register code comparator? layout style codec?

/-- The registry after a call, which may have failed. -/
def after (registry : Registry) (call : Call) : Registry :=
  match registry.perform call with
  | .ok grown => grown
  | .error _ => registry

/-- The registry after some calls, whether or not they fail. -/
def run (registry : Registry) (calls : List Call) : Registry :=
  calls.foldl after registry

/-- The scheme that a call adds, if it succeeds. -/
def accepted? (registry : Registry) (call : Call) : Option Scheme :=
  match registry.perform call, call.scheme with
  | .ok _, .ok scheme => some scheme
  | _, _ => none

/-- The schemes that some calls add, in the order of the calls that succeed. -/
def accepted (registry : Registry) : List Call → List Scheme
  | [] => []
  | call :: rest =>
    (registry.accepted? call).toList ++ (registry.after call).accepted rest

/-- What the registered codes are told apart by, in order. -/
def keys (registry : Registry) : List Text :=
  registry.schemes.map fun scheme => Scheme.key scheme.code

variable {registry : Registry} {scheme : Scheme} {call : Call} {code : String}

theorem mem_keys_of_mem (h : scheme ∈ registry.schemes) : Scheme.key scheme.code ∈ registry.keys :=
  List.mem_map_of_mem h

/-! ## One call -/

theorem atKey?_eq_none_iff {key : Text} : registry.atKey? key = none ↔ key ∉ registry.keys := by
  simp [atKey?, keys, List.find?_eq_none]

/-- A scheme is refused exactly if its key is taken, and is put at the end otherwise. -/
theorem add_eq (registry : Registry) (scheme : Scheme) :
    registry.add scheme =
      if Scheme.key scheme.code ∈ registry.keys then
        .error (.scheme (.duplicate scheme.code))
      else
        .ok ⟨registry.schemes ++ [scheme]⟩ := by
  unfold add
  split
  next other hfound =>
    have htaken : ¬Scheme.key scheme.code ∉ registry.keys := by
      rw [← atKey?_eq_none_iff, hfound]
      exact Option.some_ne_none other
    rw [if_pos (not_not.1 htaken)]
  next hfree => rw [if_neg (atKey?_eq_none_iff.1 hfree)]

theorem perform_eq (registry : Registry) (call : Call) :
    registry.perform call = call.scheme >>= registry.add := by
  cases call <;> rfl

theorem perform_of_scheme (registry : Registry) (hscheme : call.scheme = .ok scheme) :
    registry.perform call =
      if Scheme.key scheme.code ∈ registry.keys then
        .error (.scheme (.duplicate scheme.code))
      else
        .ok ⟨registry.schemes ++ [scheme]⟩ := by
  rw [perform_eq, hscheme]
  exact registry.add_eq scheme

/-- All that a call can do: its scheme cannot be made, or is refused, or is put at the end. -/
theorem perform_cases (registry : Registry) (call : Call) :
    (∃ fault, call.scheme = .error fault ∧ registry.perform call = .error fault) ∨
      (∃ scheme, call.scheme = .ok scheme ∧ Scheme.key scheme.code ∈ registry.keys ∧
        registry.perform call = .error (.scheme (.duplicate scheme.code))) ∨
      ∃ scheme, call.scheme = .ok scheme ∧ Scheme.key scheme.code ∉ registry.keys ∧
        registry.perform call = .ok ⟨registry.schemes ++ [scheme]⟩ := by
  cases hscheme : call.scheme with
  | error fault =>
    refine .inl ⟨fault, rfl, ?_⟩
    rw [perform_eq, hscheme]
    rfl
  | ok scheme =>
    have hperform := registry.perform_of_scheme hscheme
    by_cases htaken : Scheme.key scheme.code ∈ registry.keys
    · exact .inr (.inl ⟨scheme, rfl, htaken, by rw [hperform, if_pos htaken]⟩)
    · exact .inr (.inr ⟨scheme, rfl, htaken, by rw [hperform, if_neg htaken]⟩)

/-- A call adds its scheme at the end, or nothing. -/
theorem schemes_after (registry : Registry) (call : Call) :
    (registry.after call).schemes = registry.schemes ++ (registry.accepted? call).toList := by
  unfold after accepted?
  rcases registry.perform_cases call with
    ⟨fault, hscheme, hperform⟩ | ⟨scheme, hscheme, -, hperform⟩ | ⟨scheme, hscheme, -, hperform⟩
  · simp [hscheme, hperform]
  · simp [hscheme, hperform]
  · simp [hscheme, hperform]

/-- A call adds a key that is free and belongs to its scheme, or none. -/
theorem keys_after (registry : Registry) (call : Call) :
    (registry.after call).keys = registry.keys ∨
      ∃ scheme, call.scheme = .ok scheme ∧ Scheme.key scheme.code ∉ registry.keys ∧
        (registry.after call).keys = registry.keys ++ [Scheme.key scheme.code] := by
  unfold after
  rcases registry.perform_cases call with
    ⟨fault, -, hperform⟩ | ⟨scheme, -, -, hperform⟩ | ⟨scheme, hscheme, hfree, hperform⟩
  · simp [hperform]
  · simp [hperform]
  · right
    refine ⟨scheme, hscheme, hfree, ?_⟩
    simp [hperform, keys]

theorem nodup_after (h : registry.keys.Nodup) (call : Call) :
    (registry.after call).keys.Nodup := by
  rcases registry.keys_after call with hsame | ⟨scheme, -, hfree, hgrown⟩
  · rwa [hsame]
  · rw [hgrown, ← List.concat_eq_append]
    exact h.concat hfree

/-- The scheme of a call has a code that is not blank. A scheme of the caller's own cannot be made
with one that is, so this says something of ready schemes only. -/
def Call.Named (call : Call) : Prop :=
  ∀ scheme, call = .add scheme → Text.allBlank scheme.code.toList = false

theorem Call.Named.key_ne_nil (h : call.Named) (hscheme : call.scheme = .ok scheme) :
    Scheme.key scheme.code ≠ [] := by
  rw [Scheme.key_ne_nil_iff]
  cases call with
  | add own =>
    cases hscheme
    exact h scheme rfl
  | register code comparator? layout style codec? =>
    obtain ⟨hcode, hblank⟩ := Scheme.code_of_make hscheme
    rw [hcode]
    exact hblank

theorem nil_notMem_keys_after (h : [] ∉ registry.keys) (hcall : call.Named) :
    [] ∉ (registry.after call).keys := by
  rcases registry.keys_after call with hsame | ⟨scheme, hscheme, -, hgrown⟩
  · rwa [hsame]
  · rw [hgrown, List.mem_append, List.mem_singleton]
    rintro (hempty | hempty)
    · exact h hempty
    · exact hcall.key_ne_nil hscheme hempty.symm

/-! ## Calls in a row -/

/-- After some calls a registry holds what it held before and the schemes that were accepted. -/
theorem schemes_run (registry : Registry) (calls : List Call) :
    (registry.run calls).schemes = registry.schemes ++ registry.accepted calls := by
  induction calls generalizing registry with
  | nil => exact (List.append_nil _).symm
  | cons call rest ih =>
    show ((registry.after call).run rest).schemes = _
    rw [ih, schemes_after, accepted, List.append_assoc]

theorem mem_run (h : scheme ∈ registry.schemes) (calls : List Call) :
    scheme ∈ (registry.run calls).schemes := by
  rw [schemes_run]
  exact List.mem_append_left _ h

theorem nodup_run (h : registry.keys.Nodup) (calls : List Call) :
    (registry.run calls).keys.Nodup := by
  induction calls generalizing registry with
  | nil => exact h
  | cons call rest ih => exact ih (nodup_after h call)

theorem nil_notMem_keys_run (h : [] ∉ registry.keys) (calls : List Call)
    (hcalls : ∀ call ∈ calls, call.Named) : [] ∉ (registry.run calls).keys := by
  induction calls generalizing registry with
  | nil => exact h
  | cons call rest ih =>
    have hafter := nil_notMem_keys_after h (hcalls call List.mem_cons_self)
    exact ih hafter fun other hother => hcalls other (List.mem_cons_of_mem _ hother)

/-- The built-in schemes can be added one by one, and all of them are accepted. -/
theorem run_builtins : empty.run (Scheme.builtins.map .add) = builtin := by
  rfl

/-- What a caller starts with is itself the end of a run, from the registry without schemes. -/
theorem exists_run_of_initial (includeBuiltins : Bool) :
    ∃ calls, (∀ call ∈ calls, call.Named) ∧ initial includeBuiltins = empty.run calls := by
  cases includeBuiltins with
  | false => exact ⟨[], by simp, rfl⟩
  | true =>
    refine ⟨Scheme.builtins.map .add, ?_, run_builtins.symm⟩
    rintro call hcall scheme rfl
    obtain ⟨own, hown, hadd⟩ := List.mem_map.1 hcall
    cases hadd
    simp only [Scheme.builtins, List.mem_cons, List.not_mem_nil, or_false] at hown
    rcases hown with rfl | rfl | rfl | rfl | rfl | rfl <;> rfl

theorem nodup_keys_initial (includeBuiltins : Bool) : (initial includeBuiltins).keys.Nodup := by
  obtain ⟨calls, -, hrun⟩ := exists_run_of_initial includeBuiltins
  rw [hrun]
  exact nodup_run (show empty.keys.Nodup from List.nodup_nil) calls

theorem nil_notMem_keys_initial (includeBuiltins : Bool) :
    [] ∉ (initial includeBuiltins).keys := by
  obtain ⟨calls, hcalls, hrun⟩ := exists_run_of_initial includeBuiltins
  rw [hrun]
  exact nil_notMem_keys_run List.not_mem_nil calls hcalls

/-! ## Look-up -/

theorem atKey?_eq_some_iff (h : registry.keys.Nodup) {key : Text} :
    registry.atKey? key = some scheme ↔
      scheme ∈ registry.schemes ∧ Scheme.key scheme.code = key := by
  constructor
  · intro hfound
    exact ⟨List.mem_of_find?_eq_some hfound, by simpa using List.find?_some hfound⟩
  · rintro ⟨hmem, rfl⟩
    cases hfound : registry.atKey? (Scheme.key scheme.code) with
    | none => exact absurd (mem_keys_of_mem hmem) (atKey?_eq_none_iff.1 hfound)
    | some other =>
      -- Whatever is found first has the key as well, and the keys tell the schemes apart.
      have hother := List.mem_of_find?_eq_some hfound
      have hkey : Scheme.key other.code = Scheme.key scheme.code := by
        simpa using List.find?_some hfound
      rw [List.inj_on_of_nodup_map h hother hmem hkey]

theorem find?_of_key_ne_nil (h : Scheme.key code ≠ []) :
    registry.find? code = registry.atKey? (Scheme.key code) := by
  rw [find?, Scheme.key_ne_nil_iff.1 h]
  rfl

/-- A code finds the scheme with its key, unless the code is blank. -/
theorem find?_eq_some_iff (h : registry.keys.Nodup) :
    registry.find? code = some scheme ↔
      Scheme.key code ≠ [] ∧ scheme ∈ registry.schemes ∧
        Scheme.key scheme.code = Scheme.key code := by
  by_cases hkey : Scheme.key code = []
  · simp [find?, Scheme.key_eq_nil_iff.1 hkey, hkey]
  · rw [find?_of_key_ne_nil hkey, atKey?_eq_some_iff h, and_iff_right hkey]

theorem find?_eq_none (h : Scheme.key code ∉ registry.keys) : registry.find? code = none := by
  unfold find?
  split
  · rfl
  · exact atKey?_eq_none_iff.2 h

/-- The code of a built-in scheme is its key as it stands. -/
theorem key_of_mem_builtins (h : scheme ∈ Scheme.builtins) :
    Scheme.key scheme.code = Text.lower scheme.code.toList := by
  simp only [Scheme.builtins, List.mem_cons, List.not_mem_nil, or_false] at h
  rcases h with rfl | rfl | rfl | rfl | rfl | rfl <;> rfl

/-- The registry of the built-in schemes finds what is found among them without a registry. -/
theorem find?_builtin (code : String) : builtin.find? code = Scheme.findBuiltin? code := by
  unfold find? Scheme.findBuiltin?
  split
  · rfl
  · apply List.find?_congr
    intro scheme hscheme
    rw [key_of_mem_builtins hscheme]

/-- Whatever calls a registry has seen: its keys are distinct; a scheme is refused exactly if its
key is taken, and then nothing changes; the schemes are those it started with and those accepted
since, in order; each of them is found from then on by every code with its key, and no other code
finds anything; the built-in schemes, if it started with them, are found as they are without it. -/
theorem initial_run_invariant (includeBuiltins : Bool) (calls : List Call)
    (hcalls : ∀ call ∈ calls, call.Named) :
    let start := initial includeBuiltins
    let registry := start.run calls
    registry.keys.Nodup ∧
      (∀ call scheme, call.scheme = .ok scheme →
        (registry.perform call = .error (.scheme (.duplicate scheme.code)) ↔
          Scheme.key scheme.code ∈ registry.keys) ∧
        (Scheme.key scheme.code ∉ registry.keys →
          registry.perform call = .ok ⟨registry.schemes ++ [scheme]⟩)) ∧
      (∀ call fault, registry.perform call = .error fault → registry.after call = registry) ∧
      (registry.schemes = start.schemes ++ start.accepted calls ∧
        registry.codes = start.codes ++ (start.accepted calls).map Scheme.code ∧
        registry.size = start.size + (start.accepted calls).length) ∧
      (∀ scheme ∈ registry.schemes, ∀ later code, Scheme.key code = Scheme.key scheme.code →
        (registry.run later).find? code = some scheme) ∧
      (∀ code, Scheme.key code ∉ registry.keys → registry.find? code = none) ∧
      (includeBuiltins = true → ∀ code scheme, Scheme.findBuiltin? code = some scheme →
        registry.find? code = some scheme) := by
  intro start registry
  have hstart := nodup_keys_initial includeBuiltins
  have hnodup : registry.keys.Nodup := nodup_run hstart calls
  have hnonblank : [] ∉ registry.keys :=
    nil_notMem_keys_run (nil_notMem_keys_initial includeBuiltins) calls hcalls
  have hschemes : registry.schemes = start.schemes ++ start.accepted calls :=
    start.schemes_run calls
  refine ⟨hnodup, ?_, ?_, ⟨hschemes, ?_, ?_⟩, ?_, fun code => find?_eq_none, ?_⟩
  · intro call scheme hscheme
    rw [registry.perform_of_scheme hscheme]
    by_cases htaken : Scheme.key scheme.code ∈ registry.keys
    · simp [htaken]
    · simp [htaken]
  · intro call fault hfault
    rw [after, hfault]
  · rw [codes, codes, hschemes, List.map_append]
  · rw [size, size, hschemes, List.length_append]
  · intro scheme hmem later code hkey
    rw [find?_eq_some_iff (nodup_run hnodup later), hkey]
    refine ⟨?_, mem_run hmem later, rfl⟩
    intro hempty
    exact hnonblank (hempty ▸ mem_keys_of_mem hmem)
  · rintro rfl code scheme hfound
    rw [← find?_builtin] at hfound
    obtain ⟨hne, hmem, hkey⟩ := (find?_eq_some_iff hstart).1 hfound
    exact (find?_eq_some_iff hnodup).2 ⟨hne, mem_run hmem calls, hkey⟩

/-- A scheme of the caller's own, and calls that are refused before and after it. -/
theorem initial_run_invariant_gradle :
    let calls : List Call :=
      [.add Scheme.semverDefault, .register "\t" (some .maven) Layout.noBuild Style.omitBuild none,
        .register " Gradle" (some .maven) Layout.noBuild Style.omitBuild none,
        .add { code := "GRADLE ", comparator := .semver }]
    let registry := (initial true).run calls
    (∀ call ∈ calls, call.Named) ∧ registry.keys.Nodup ∧ registry.size = 7 ∧
      registry.find? "gradle" = some { code := " Gradle", comparator := .maven } := by
  intro calls registry
  have hcalls : ∀ call ∈ calls, call.Named := by
    simp only [calls, List.forall_mem_cons, List.not_mem_nil, false_imp_iff, implies_true]
    refine ⟨?_, ?_, ?_, ?_, trivial⟩
    · rintro scheme ⟨⟩
      rfl
    · rintro scheme ⟨⟩
    · rintro scheme ⟨⟩
    · rintro scheme ⟨⟩
      rfl
  have haccepted : (initial true).accepted calls =
      [{ code := " Gradle", comparator := .maven }] := rfl
  obtain ⟨hnodup, -, -, ⟨hschemes, -, hsize⟩, hfind, -⟩ := initial_run_invariant true calls hcalls
  rw [haccepted] at hschemes hsize
  have hmem : { code := " Gradle", comparator := .maven } ∈ registry.schemes := by
    rw [hschemes]
    exact List.mem_append_right _ List.mem_cons_self
  have hkey : Scheme.key "gradle" = Scheme.key " Gradle" := by decide +kernel
  exact ⟨hcalls, hnodup, hsize, hfind _ hmem [] "gradle" hkey⟩

/-! ## All ways to look a code up -/

/-- A code is looked up to the same effect in all ways: either each of them arrives at the scheme
that is held under its key, or it is not there, and whoever needs it is told so. -/
def LookupsAgree (registry : Registry) (code : String) : Prop :=
  (∃ scheme, registry.atKey? (Scheme.key code) = some scheme ∧ registry.contains code = true ∧
      registry.find? code = some scheme ∧ registry.get code = .ok scheme ∧
      resolve (some registry) (.code code) = .ok scheme) ∨
    (registry.contains code = false ∧ registry.find? code = none ∧
      (∃ known, registry.get code = .error (.scheme (.unknown (some code) known))) ∧
      ∃ known, resolve (some registry) (.code code) = .error (.scheme (.unknown (some code) known)))

theorem get_of_find? (h : registry.find? code = some scheme) : registry.get code = .ok scheme := by
  simp [get, require, h]

theorem get_of_not_find? (h : registry.find? code = none) :
    registry.get code = .error (.scheme (.unknown (some code) (some registry.codes))) := by
  simp [get, require, h]

/-- A registry with schemes is asked itself. -/
theorem resolve_code_of_ne_nil (h : registry.schemes ≠ []) (code : String) :
    resolve (some registry) (.code code) = registry.get code := by
  simp [resolve, h]

/-- In place of a registry without schemes, the built-in one is asked. -/
theorem resolve_code_of_eq_nil (h : registry.schemes = []) (code : String) :
    resolve (some registry) (.code code) = builtin.get code := by
  simp [resolve, h]

theorem lookupsAgree_of_ne_nil (h : registry.schemes ≠ []) (code : String) :
    registry.LookupsAgree code := by
  have hresolve := resolve_code_of_ne_nil h code
  cases hfound : registry.find? code with
  | none =>
    have hget := get_of_not_find? hfound
    exact .inr ⟨by simp [contains, hfound], hfound, ⟨_, hget⟩, ⟨_, hresolve.trans hget⟩⟩
  | some scheme =>
    have hget := get_of_find? hfound
    have hheld : registry.atKey? (Scheme.key code) = some scheme := by
      unfold find? at hfound
      split at hfound
      · cases hfound
      · exact hfound
    exact .inl ⟨scheme, hheld, by simp [contains, hfound], hfound, hget, hresolve.trans hget⟩

theorem lookupsAgree_of_eq_nil (h : registry.schemes = []) (code : String) :
    registry.LookupsAgree code ↔ Scheme.findBuiltin? code = none := by
  have hresolve := resolve_code_of_eq_nil h code
  have hnone : registry.find? code = none := find?_eq_none (by simp [keys, h])
  constructor
  · rintro (⟨scheme, -, -, hfound, -⟩ | ⟨-, -, -, known, hfault⟩)
    · cases hnone.symm.trans hfound
    · rw [← find?_builtin]
      cases hfound : builtin.find? code with
      | none => rfl
      | some scheme => cases (get_of_find? hfound).symm.trans (hresolve.symm.trans hfault)
  · intro hother
    rw [← find?_builtin] at hother
    exact .inr ⟨by simp [contains, hnone], hnone, ⟨_, get_of_not_find? hnone⟩,
      ⟨_, hresolve.trans (get_of_not_find? hother)⟩⟩

/-- The look-ups of a code agree on every registry that can be arrived at, save that one without
schemes is passed over where a scheme is asked for, and a built-in code stands for its scheme there.
Only a registry that started without schemes and has accepted none is such a one. -/
theorem lookupsAgree_run_iff (includeBuiltins : Bool) (calls : List Call) :
    let start := initial includeBuiltins
    let registry := start.run calls
    (∀ code, registry.LookupsAgree code ↔ (registry.size = 0 → Scheme.findBuiltin? code = none)) ∧
      (registry.size = 0 ↔ includeBuiltins = false ∧ start.accepted calls = []) := by
  intro start registry
  constructor
  · intro code
    by_cases hempty : registry.schemes = []
    · simp [lookupsAgree_of_eq_nil hempty, size, hempty]
    · simp [lookupsAgree_of_ne_nil hempty, size, hempty]
  · rw [size, List.length_eq_zero_iff, start.schemes_run calls, List.append_eq_nil_iff]
    cases includeBuiltins <;> simp [start, initial, builtin, empty, Scheme.builtins]

/-- A registry that was started without schemes, and the code of the default scheme. -/
theorem not_lookupsAgree_run : ¬∀ (includeBuiltins : Bool) (calls : List Call) (code : String),
    ((initial includeBuiltins).run calls).LookupsAgree code := by
  intro h
  have hnone := (lookupsAgree_of_eq_nil rfl "maven-default").1 (h false [] "maven-default")
  cases hnone

end Registry

end VersionOrder
