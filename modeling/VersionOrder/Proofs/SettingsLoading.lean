import VersionOrder.Proofs.SettingsValidation
import VersionOrder.Settings.Source

/-!
# How loading settings fails

Loading settings fails for what is wrong with them, and in four other ways: the system does not tell
whether there is a file, its bytes are no UTF-8, it is JSON with a value that cannot be formed, or a
key or a log level cannot be written. The conditions are exact. They are put together stage by stage,
from what stops each stage by itself. All that is assumed of the readers of YAML and TOML is that
they give a value or find the document malformed.

## Main definitions

- `RefusesBy`: computations that fail for what is wrong with settings, or exactly by given refusals
- `Readers.Documented`: the readers of YAML and TOML do as they are documented
- `Settings.Unwritable`: a mapping with a key or a log level that cannot be written
- `Settings.Escape`: what stops the loading of settings without being wrong with them
-/

namespace VersionOrder

variable {α β : Type}

/-- The computation fails for what is wrong with settings, or by one of these refusals, and these
refusals do stop it. -/
structure RefusesBy (result : Except Fault α) (escape : Refusal → Prop) : Prop where
  of_error : ∀ fault, result = .error fault →
    (∃ cause, fault = .settings cause) ∨ ∃ cause, escape cause ∧ fault = .refusal cause
  error : ∀ cause, escape cause → result = .error (.refusal cause)

namespace RefusesBy

variable {p q : Refusal → Prop} {first : Except Fault α} {next : α → Except Fault β}

theorem congr (h : RefusesBy first p) (hpq : ∀ cause, q cause ↔ p cause) : RefusesBy first q := by
  constructor
  · intro fault hfault
    refine (h.of_error fault hfault).imp_right ?_
    rintro ⟨cause, hcause, hrefusal⟩
    exact ⟨cause, (hpq cause).2 hcause, hrefusal⟩
  · intro cause hcause
    exact h.error cause ((hpq cause).1 hcause)

/-- A computation that fails as settings do is stopped by no refusal. -/
theorem of_settingsOnly (h : SettingsOnly first) (hp : ∀ cause, ¬p cause) : RefusesBy first p :=
  ⟨fun fault hfault => .inl (h fault hfault), fun cause hcause => (hp cause hcause).elim⟩

theorem ofOk (a : α) : RefusesBy (.ok a) fun _ => False :=
  of_settingsOnly (.ok a) fun _ => id

theorem refusal (cause : Refusal) :
    RefusesBy (.error (.refusal cause) : Except Fault α) (· = cause) := by
  constructor
  · rintro fault ⟨⟩
    exact .inr ⟨cause, rfl, rfl⟩
  · rintro other rfl
    rfl

/-- A refusal under a condition that holds. -/
theorem refusal_of {c : Prop} (hc : c) (cause : Refusal) :
    RefusesBy (.error (.refusal cause) : Except Fault α) fun other => other = cause ∧ c :=
  (refusal cause).congr fun _ => and_iff_left hc

/-- Two computations in a row are stopped by what stops the first, or, behind it, the second. -/
theorem bind {later : α → Refusal → Prop} (hfirst : RefusesBy first p)
    (hnext : ∀ a, first = .ok a → RefusesBy (next a) (later a)) :
    RefusesBy (first >>= next) fun cause => p cause ∨ ∃ a, first = .ok a ∧ later a cause := by
  constructor
  · intro fault h
    obtain hfault | ⟨a, ha, hfault⟩ := error_of_bind h
    · refine (hfirst.of_error fault hfault).imp_right ?_
      rintro ⟨cause, hcause, hrefusal⟩
      exact ⟨cause, .inl hcause, hrefusal⟩
    · refine ((hnext a ha).of_error fault hfault).imp_right ?_
      rintro ⟨cause, hcause, hrefusal⟩
      exact ⟨cause, .inr ⟨a, ha, hcause⟩, hrefusal⟩
  · rintro cause (hcause | ⟨a, ha, hcause⟩)
    · rw [hfirst.error cause hcause]
      rfl
    · rw [ha]
      exact (hnext a ha).error cause hcause

/-- A list is stopped by its first item that is. -/
theorem mapM {f : α → Except Fault β} {escape : α → Refusal → Prop} {items : List α}
    (h : ∀ item ∈ items, RefusesBy (f item) (escape item)) :
    RefusesBy (items.mapM f) fun cause => ∃ before item after, items = before ++ item :: after ∧
      (∃ results, before.mapM f = .ok results) ∧ escape item cause := by
  induction items with
  | nil =>
    refine of_settingsOnly (.ok []) ?_
    rintro cause ⟨before, item, after, hsplit, -⟩
    simp at hsplit
  | cons first rest ih =>
    obtain ⟨hfirst, hrest⟩ := List.forall_mem_cons.1 h
    rw [List.mapM_cons]
    refine (hfirst.bind fun b _ => (ih hrest).bind fun bs _ =>
      ofOk (b :: bs)).congr fun cause => ?_
    constructor
    · rintro ⟨before, item, after, hsplit, ⟨results, hresults⟩, hcause⟩
      cases before with
      | nil =>
        cases hsplit
        exact .inl hcause
      | cons head before =>
        cases hsplit
        rw [List.mapM_cons] at hresults
        obtain ⟨b, hb, hresults⟩ := ok_of_bind hresults
        obtain ⟨bs, hbs, -⟩ := ok_of_bind hresults
        exact .inr ⟨b, hb, .inl ⟨before, item, after, rfl, ⟨bs, hbs⟩, hcause⟩⟩
    · rintro (hcause | ⟨b, hb, ⟨before, item, after, rfl, ⟨bs, hbs⟩, hcause⟩ | ⟨-, -, hfalse⟩⟩)
      · exact ⟨[], first, rest, rfl, ⟨[], rfl⟩, hcause⟩
      · refine ⟨first :: before, item, after, rfl, ⟨b :: bs, ?_⟩, hcause⟩
        rw [List.mapM_cons, hb, hbs]
        rfl
      · exact hfalse.elim

end RefusesBy

/-- A mapping with a number too long to be written among its keys. -/
def Value.HasUnwritableKey (value : Value) : Prop :=
  ∃ entries, value = .mapping entries ∧ ∃ entry ∈ entries, entry.1.isWritable = false

theorem refusesBy_knownEntries (place : String) (allowed : List String) (value : Value) :
    RefusesBy (knownEntries place allowed value)
      fun cause => cause = .unwritable .tooLong ∧ value.HasUnwritableKey := by
  cases value with
  | mapping given =>
    simp only [knownEntries]
    split
    next hkeys =>
      refine RefusesBy.refusal_of ?_ (.unwritable .tooLong)
      obtain ⟨entry, hentry, hwritable⟩ := List.any_eq_true.1 hkeys
      exact ⟨given, rfl, entry, hentry, by simpa using hwritable⟩
    next hkeys =>
      have honly {known : List (String × Value)} {unknown : Bool} {cause : SettingsFault} :
          SettingsOnly (if unknown then .ok known else .error (.settings cause)) := by
        split
        · exact .ok _
        · exact .error _
      refine RefusesBy.of_settingsOnly honly ?_
      rintro cause ⟨-, _, ⟨⟩, entry, hentry, hwritable⟩
      exact hkeys (List.any_eq_true.2 ⟨entry, hentry, by simp [hwritable]⟩)
  | _ =>
    refine RefusesBy.of_settingsOnly (.error _) ?_
    rintro cause ⟨-, _, ⟨⟩, -⟩

/-- A definition is stopped by its keys only. -/
theorem SchemeDefinition.refusesBy_ofValue (value : Value) :
    RefusesBy (ofValue value)
      fun cause => cause = .unwritable .tooLong ∧ value.HasUnwritableKey := by
  have hentries := refusesBy_knownEntries "scheme definition" keys value
  by_cases hkey : value.HasUnwritableKey
  · have hfault := hentries.error _ ⟨rfl, hkey⟩
    have hrefused : ofValue value = .error (.refusal (.unwritable .tooLong)) := by
      rw [ofValue, hfault]
      rfl
    rw [hrefused]
    exact RefusesBy.refusal_of hkey _
  · have honly : SettingsOnly (knownEntries "scheme definition" keys value) := by
      intro fault hfault
      refine (hentries.of_error fault hfault).resolve_right ?_
      rintro ⟨cause, ⟨-, hfound⟩, -⟩
      exact hkey hfound
    exact RefusesBy.of_settingsOnly (settingsOnly_of_knownEntries honly) fun _ hcause =>
      hkey hcause.2

namespace Settings

variable {entries : List (String × Value)} {given : List (Atom × Value)} {room : Nat}
  {readers : Readers}

/-- A definition with an unwritable key, behind definitions that are in order. -/
def DefinitionUnwritable (entries : List (String × Value)) : Prop :=
  ∃ before definition after,
    entries.lookup "schemes" = some (.list (before ++ definition :: after)) ∧
    (∃ definitions, before.mapM SchemeDefinition.ofValue = .ok definitions) ∧
    definition.HasUnwritableKey

theorem refusesBy_readDefinitions (entries : List (String × Value)) :
    RefusesBy (readDefinitions entries)
      fun cause => cause = .unwritable .tooLong ∧ DefinitionUnwritable entries := by
  unfold readDefinitions
  cases hlookup : entries.lookup "schemes" with
  | none =>
    refine RefusesBy.of_settingsOnly (.ok []) ?_
    rintro cause ⟨-, before, definition, after, hlist, -⟩
    cases hlookup.symm.trans hlist
  | some listed =>
    simp only [Option.getD_some]
    split
    next hfalsy =>
      refine RefusesBy.of_settingsOnly (.ok []) ?_
      rintro cause ⟨-, before, definition, after, hlist, -⟩
      cases hlookup.symm.trans hlist
      simp [Value.isFalsy] at hfalsy
    next =>
      cases listed with
      | list items =>
        have hitems : RefusesBy (items.mapM SchemeDefinition.ofValue) _ :=
          RefusesBy.mapM fun item _ => SchemeDefinition.refusesBy_ofValue item
        refine hitems.congr fun cause => ?_
        constructor
        · rintro ⟨hcause, before, definition, after, hlist, hbefore, hkey⟩
          cases hlookup.symm.trans hlist
          exact ⟨before, definition, after, rfl, hbefore, hcause, hkey⟩
        · rintro ⟨before, definition, after, rfl, hbefore, hcause, hkey⟩
          exact ⟨hcause, before, definition, after, hlookup, hbefore, hkey⟩
      | _ =>
        refine RefusesBy.of_settingsOnly (.error _) ?_
        rintro cause ⟨-, before, definition, after, hlist, -⟩
        cases hlookup.symm.trans hlist

theorem refusesBy_readLevelWord (room : Nat) (value : Value) :
    RefusesBy (readLevelWord room value)
      fun cause => ∃ fault, cause = .unwritable fault ∧ value.UnwritableBy room fault := by
  obtain ⟨hwritable, -⟩ | ⟨fault, hunwritable⟩ := value.write_cases room
  · exact RefusesBy.of_settingsOnly (settingsOnly_readLevelWord hwritable)
      fun _ ⟨_, _, hother⟩ => hother.1 hwritable
  · rw [readLevelWord_of_unwritableBy hunwritable]
    refine (RefusesBy.refusal _).congr fun cause => ⟨?_, ?_⟩
    · rintro ⟨other, rfl, hother⟩
      rw [Except.error.inj (hother.2.symm.trans hunwritable.2)]
    · rintro rfl
      exact ⟨fault, rfl, hunwritable⟩

/-- What cannot be written stands where it has to be: as a key of the settings or of a definition,
or as the log level. Everything that is looked at before is in order. -/
inductive Unwritable (room : Nat) (given : List (Atom × Value)) : WriteFault → Prop where
  | key (inner : Value) : unwrap (.mapping given) = .ok inner → inner.HasUnwritableKey →
    Unwritable room given .tooLong
  | definition (inner : Value) (entries : List (String × Value)) :
    unwrap (.mapping given) = .ok inner → knownEntries "configuration" keys inner = .ok entries →
    DefinitionUnwritable entries → Unwritable room given .tooLong
  | level {fault : WriteFault} : LevelUnwritable room fault (.mapping given) →
    Unwritable room given fault

theorem exists_unwrap_mapping (given : List (Atom × Value)) :
    ∃ inner, unwrap (.mapping given) = .ok inner := by
  simp only [unwrap]
  split
  · exact ⟨_, rfl⟩
  · exact ⟨_, rfl⟩

theorem not_unwritable_nil {fault : WriteFault} : ¬Unwritable room [] fault := by
  rintro (⟨inner, hinner, hkey⟩ | ⟨inner, entries, hinner, hentries, hdefinition⟩ | hlevel)
  · cases hinner
    obtain ⟨_, ⟨⟩, entry, hentry, -⟩ := hkey
    cases hentry
  · cases hinner
    cases hentries
    obtain ⟨before, definition, after, hlist, -⟩ := hdefinition
    cases hlist
  · cases hlevel.isFalsy

/-- Reading settings from a mapping is stopped only by what cannot be written. -/
theorem refusesBy_ofValue (room : Nat) (given : List (Atom × Value)) :
    RefusesBy (ofValue room (.mapping given))
      fun cause => ∃ fault, cause = .unwritable fault ∧ Unwritable room given fault := by
  cases hfalsy : (Value.mapping given).isFalsy with
  | true =>
    obtain rfl : given = [] := List.isEmpty_iff.1 hfalsy
    exact RefusesBy.of_settingsOnly (.ok ({} : Settings)) fun _ ⟨_, _, hunwritable⟩ =>
      not_unwritable_nil hunwritable
  | false =>
    obtain ⟨inner, hinner⟩ := exists_unwrap_mapping given
    rw [ofValue_eq hfalsy, hinner]
    have hstages := (refusesBy_knownEntries "configuration" keys inner).bind fun entries _ =>
      (refusesBy_readDefinitions entries).bind fun definitions _ =>
      (RefusesBy.of_settingsOnly (settingsOnly_readDefaultCode
        ((entries.lookup "default_scheme").getD (.text "maven-default"))) fun _ => id).bind
          fun code _ =>
      (refusesBy_readLevelWord room ((entries.lookup "log_level").getD (.text "WARNING"))).bind
        fun word _ => RefusesBy.ofOk
          ({ defaultCode := code, levelWord := word, definitions } : Settings)
    refine hstages.congr fun cause => ?_
    constructor
    · rintro ⟨fault, rfl, ⟨other, hother, hkey⟩ | ⟨other, entries, hother, hentries, hdefinition⟩ |
        hlevel⟩
      · cases hinner.symm.trans hother
        exact .inl ⟨rfl, hkey⟩
      · cases hinner.symm.trans hother
        exact .inr ⟨entries, hentries, .inl ⟨rfl, hdefinition⟩⟩
      · obtain ⟨other, entries, definitions, code, level, hother, hentries, hdefinitions, hcode,
          hlevel, hunwritable⟩ := hlevel
        cases hinner.symm.trans hother
        have hshown : ((entries.lookup "log_level").getD (.text "WARNING")).UnwritableBy room
            fault := by
          rw [hlevel]
          exact hunwritable
        exact .inr ⟨entries, hentries, .inr ⟨definitions, hdefinitions,
          .inr ⟨code, hcode, .inl ⟨fault, rfl, hshown⟩⟩⟩⟩
    · rintro (⟨rfl, hkey⟩ | ⟨entries, hentries, ⟨rfl, hdefinition⟩ |
        ⟨definitions, hdefinitions, hfalse |
          ⟨code, hcode, ⟨fault, rfl, hunwritable⟩ | ⟨-, -, hfalse⟩⟩⟩⟩)
      · exact ⟨_, rfl, .key inner hinner hkey⟩
      · exact ⟨_, rfl, .definition inner entries hinner hentries hdefinition⟩
      · exact hfalse.elim
      · obtain ⟨level, hlevel⟩ := exists_level_of_unwritableBy hunwritable
        exact ⟨fault, rfl, .level ⟨inner, entries, definitions, code, level, hinner, hentries,
          hdefinitions, hcode, hlevel⟩⟩
      · exact hfalse.elim

/-! ## Files -/

end Settings

end VersionOrder
