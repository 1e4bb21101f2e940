import VersionOrder.Proofs.SchemeDefinitions
import VersionOrder.Proofs.ValueWriting
import VersionOrder.Settings.Basic

/-!
# What checked settings guarantee

Settings are checked once, when they are read. From then on nothing can go wrong with them, save
that two schemes may share a key: then the first that clashes is named.

Reading JSON fails only for what is wrong with the settings, with one exception. A log level that
is no text is shown in the fault, and the showing fails where it holds a number that is too long or
is nested too deeply.

## Main definitions

- `Settings.LevelUnwritable`: all is well up to a log level that cannot be shown
- `SchemeDefinition.ClashFree`: definitions that can be registered together
-/

namespace VersionOrder

namespace SchemeDefinition

/-- What definitions are told apart by. -/
def schemeKeys (definitions : List SchemeDefinition) : List Text :=
  definitions.map fun definition => Scheme.key definition.code

/-- No two definitions share a key, and none has the code of a built-in scheme. -/
def ClashFree (definitions : List SchemeDefinition) : Prop :=
  (schemeKeys definitions).Nodup ∧
    ∀ definition ∈ definitions, Scheme.findBuiltin? definition.code = none

theorem Valid.findBuiltin?_eq_none_iff {definition : SchemeDefinition} (h : definition.Valid) :
    Scheme.findBuiltin? definition.code = none ↔
      Scheme.key definition.code ∉ Registry.builtin.keys := by
  have hkey := Scheme.key_ne_nil_iff.2 h.named
  rw [← Registry.find?_builtin, Registry.find?_of_key_ne_nil hkey, Registry.atKey?_eq_none_iff]

/-- Freedom from clashes, as one condition on the keys of the registry that is to be built. -/
theorem clashFree_iff {definitions : List SchemeDefinition}
    (hvalid : ∀ definition ∈ definitions, definition.Valid) :
    ClashFree definitions ↔ (Registry.builtin.keys ++ schemeKeys definitions).Nodup := by
  have hbuiltin : Registry.builtin.keys.Nodup := Registry.nodup_keys_initial true
  have hapart : (∀ definition ∈ definitions, Scheme.findBuiltin? definition.code = none) ↔
      Registry.builtin.keys.Disjoint (schemeKeys definitions) := by
    rw [List.disjoint_right]
    constructor
    · intro h key hkey
      obtain ⟨definition, hmem, rfl⟩ := List.mem_map.1 hkey
      exact (hvalid definition hmem).findBuiltin?_eq_none_iff.1 (h definition hmem)
    · intro h definition hmem
      exact (hvalid definition hmem).findBuiltin?_eq_none_iff.2 (h (List.mem_map_of_mem hmem))
  rw [ClashFree, hapart, List.nodup_append', and_iff_right hbuiltin]

/-- A definition whose key is taken by what comes before it spoils all lists that go on from it. -/
theorem not_clashFree {before after : List SchemeDefinition} {definition : SchemeDefinition}
    (hvalid : ∀ other ∈ before ++ definition :: after, other.Valid)
    (hclash : Scheme.key definition.code ∈ Registry.builtin.keys ++ schemeKeys before) :
    ¬ClashFree (before ++ definition :: after) := by
  rw [clashFree_iff hvalid]
  intro hnodup
  have hkeys : Registry.builtin.keys ++ schemeKeys (before ++ definition :: after) =
      (Registry.builtin.keys ++ schemeKeys before) ++
        (Scheme.key definition.code :: schemeKeys after) := by
    simp [schemeKeys]
  rw [hkeys] at hnodup
  exact List.disjoint_of_nodup_append hnodup hclash List.mem_cons_self

end SchemeDefinition

namespace Settings

open SchemeDefinition

variable {value : Value} {settings : Settings} {entries : List (String × Value)}
  {given : List (Atom × Value)} {definitions : List SchemeDefinition} {fault : Fault} {room : Nat}

/-! ## Reading -/

/-- A table inside JSON is JSON. -/
theorem unwrap_mapping (h : (Value.mapping given).IsJson) :
    ∃ inner, unwrap (.mapping given) = .ok inner ∧ inner.IsJson := by
  have hvalues : ∀ entry ∈ given, entry.2.IsJson := by
    cases h with
    | mapping _ _ hvalues => exact hvalues
  simp only [unwrap]
  split
  next inner htable =>
    obtain ⟨entry, hentry, hinner⟩ := Value.exists_mem_of_lookup htable
    exact ⟨_, rfl, hinner ▸ hvalues entry hentry⟩
  next => exact ⟨_, rfl, h⟩

theorem settingsOnly_readDefinitions (h : ∀ entry ∈ entries, entry.2.IsJson) :
    SettingsOnly (readDefinitions entries) := by
  unfold readDefinitions
  cases hlookup : entries.lookup "schemes" with
  | none => exact .ok []
  | some listed =>
    obtain ⟨entry, hentry, hlisted⟩ := Value.exists_mem_of_lookup hlookup
    have hjson : listed.IsJson := hlisted ▸ h entry hentry
    simp only [Option.getD_some]
    split
    · exact .ok []
    · cases hjson with
      | list items hitems =>
        exact .mapM fun item hitem => settingsOnly_ofValue (hitems item hitem)
      | _ => exact .error _

theorem settingsOnly_readDefaultCode (value : Value) : SettingsOnly (readDefaultCode value) := by
  unfold readDefaultCode
  split
  · split
    · exact .error _
    · exact .ok _
  · exact .error _

theorem settingsOnly_readLevelWord (h : value.Writable room) :
    SettingsOnly (readLevelWord room value) := by
  obtain ⟨-, shown, hshown⟩ | ⟨-, hunwritable, -⟩ := value.write_cases room
  · simp only [readLevelWord, hshown]
    split
    · split
      · exact .ok _
      · exact .error _
    · exact .error _
  · exact absurd h hunwritable

/-- A value that cannot be shown is no text, and no log level either. -/
theorem readLevelWord_of_unwritableBy {cause : WriteFault} (h : value.UnwritableBy room cause) :
    readLevelWord room value = .error (.refusal (.unwritable cause)) := by
  simp only [readLevelWord, h.2]
  split
  · exact absurd (Value.writable_text _ room) h.1
  · rfl

/-- The log level that stands where none is given can be shown. -/
theorem exists_level_of_unwritableBy {cause : WriteFault}
    (h : ((entries.lookup "log_level").getD (.text "WARNING")).UnwritableBy room cause) :
    ∃ level, entries.lookup "log_level" = some level ∧ level.UnwritableBy room cause := by
  cases hlevel : entries.lookup "log_level" with
  | none =>
    rw [hlevel] at h
    exact absurd (Value.writable_text _ room) h.1
  | some level =>
    rw [hlevel] at h
    exact ⟨level, rfl, h⟩

/-- What a value says is in order up to the log level, which is given and cannot be shown. -/
def LevelUnwritable (room : Nat) (cause : WriteFault) (value : Value) : Prop :=
  ∃ inner entries definitions code level,
    unwrap value = .ok inner ∧ knownEntries "configuration" keys inner = .ok entries ∧
      readDefinitions entries = .ok definitions ∧
      readDefaultCode ((entries.lookup "default_scheme").getD (.text "maven-default")) = .ok code ∧
      entries.lookup "log_level" = some level ∧ level.UnwritableBy room cause

theorem LevelUnwritable.isFalsy {cause : WriteFault}
    (h : LevelUnwritable room cause (.mapping given)) :
    (Value.mapping given).isFalsy = false := by
  obtain ⟨inner, entries, definitions, code, level, hinner, hentries, -, -, hlevel, -⟩ := h
  cases given with
  | cons entry rest => rfl
  | nil =>
    cases hinner
    cases hentries
    cases hlevel

theorem ofValue_eq (h : value.isFalsy = false) :
    ofValue room value = (do
      let inner ← unwrap value
      let entries ← knownEntries "configuration" keys inner
      let definitions ← readDefinitions entries
      let code ← readDefaultCode ((entries.lookup "default_scheme").getD (.text "maven-default"))
      let word ← readLevelWord room ((entries.lookup "log_level").getD (.text "WARNING"))
      return { defaultCode := code, levelWord := word, definitions }) := by
  rw [ofValue, h]
  rfl

/-- Reading JSON fails as settings do, or for a log level that cannot be shown. -/
theorem error_of_ofValue (hjson : (Value.mapping given).IsJson)
    (h : ofValue room (.mapping given) = .error fault) :
    (∃ cause, fault = .settings cause) ∨
      ∃ cause, fault = .refusal (.unwritable cause) ∧
        LevelUnwritable room cause (.mapping given) := by
  cases hfalsy : (Value.mapping given).isFalsy with
  | true =>
    rw [ofValue, hfalsy] at h
    cases h
  | false =>
    obtain ⟨inner, hinner, hinnerJson⟩ := unwrap_mapping hjson
    rw [ofValue_eq hfalsy, hinner] at h
    change (knownEntries "configuration" keys inner >>= _) = _ at h
    obtain hfault | ⟨entries, hentries, h⟩ := error_of_bind h
    · exact .inl (settingsOnly_knownEntries hinnerJson _ hfault)
    obtain hfault | ⟨definitions, hdefinitions, h⟩ := error_of_bind h
    · have hvalues := isJson_of_knownEntries hinnerJson hentries
      exact .inl (settingsOnly_readDefinitions hvalues _ hfault)
    obtain hfault | ⟨code, hcode, h⟩ := error_of_bind h
    · exact .inl (settingsOnly_readDefaultCode _ _ hfault)
    obtain hfault | ⟨word, _, h⟩ := error_of_bind h
    -- The only stage that can fail in another way, and then by the value it was about to show.
    · obtain ⟨hwritable, -⟩ | ⟨cause, hunwritable⟩ :=
        ((entries.lookup "log_level").getD (.text "WARNING")).write_cases room
      · exact .inl (settingsOnly_readLevelWord hwritable _ hfault)
      · right
        cases (readLevelWord_of_unwritableBy hunwritable).symm.trans hfault
        obtain ⟨level, hlevel⟩ := exists_level_of_unwritableBy hunwritable
        exact ⟨cause, rfl, inner, entries, definitions, code, level, hinner, hentries, hdefinitions,
          hcode, hlevel⟩
    · cases h

theorem ofValue_of_levelUnwritable {cause : WriteFault}
    (h : LevelUnwritable room cause (.mapping given)) :
    ofValue room (.mapping given) = .error (.refusal (.unwritable cause)) := by
  rw [ofValue_eq h.isFalsy]
  obtain ⟨inner, entries, definitions, code, level, hinner, hentries, hdefinitions, hcode, hlevel,
    hunwritable⟩ := h
  have hword := readLevelWord_of_unwritableBy hunwritable
  simp [hinner, hentries, hdefinitions, hcode, hlevel, hword, bind, Except.bind]

/-! ## Checked settings -/

/-- Settings whose log level is one and whose definitions are valid. -/
structure Valid (settings : Settings) : Prop where
  level : (LogLevel.ofWord? settings.levelWord).isSome
  definitions : ∀ definition ∈ settings.definitions, definition.Valid

theorem isSome_of_readLevelWord {word : String} (h : readLevelWord room value = .ok word) :
    (LogLevel.ofWord? word).isSome := by
  unfold readLevelWord at h
  extract_lets unknownLevel at h
  have hunknown : unknownLevel ≠ .ok word := by
    unfold unknownLevel
    split <;> nofun
  split at h
  next own =>
    by_cases hlevel : (LogLevel.ofWord? own).isSome
    · rw [if_pos hlevel] at h
      cases h
      exact hlevel
    · rw [if_neg hlevel] at h
      exact absurd h hunknown
  next => exact absurd h hunknown

theorem valid_of_mapM {items : List Value}
    (h : items.mapM SchemeDefinition.ofValue = .ok definitions) :
    ∀ definition ∈ definitions, definition.Valid := by
  intro definition hmem
  obtain ⟨place, hplace, rfl⟩ := List.mem_iff_getElem.1 hmem
  obtain ⟨hlength, hitems⟩ := List.forall₂_iff_get.1 (forall₂_of_mapM h)
  exact valid_of_ofValue (hitems place (hlength ▸ hplace) hplace)

theorem valid_of_readDefinitions (h : readDefinitions entries = .ok definitions) :
    ∀ definition ∈ definitions, definition.Valid := by
  unfold readDefinitions at h
  dsimp only at h
  split at h
  · cases h
    simp
  · split at h
    · exact valid_of_mapM h
    · cases h

/-- Settings that are read are the defaults, or they are put together from what is read of their
entries. -/
theorem cases_of_ofValue (h : ofValue room value = .ok settings) :
    settings = {} ∨ ∃ entries : List (String × Value),
      readDefinitions entries = .ok settings.definitions ∧
      readDefaultCode ((entries.lookup "default_scheme").getD (.text "maven-default")) =
        .ok settings.defaultCode ∧
      readLevelWord room ((entries.lookup "log_level").getD (.text "WARNING")) =
        .ok settings.levelWord := by
  cases hfalsy : value.isFalsy with
  | true =>
    rw [ofValue, hfalsy] at h
    cases h
    exact .inl rfl
  | false =>
    rw [ofValue_eq hfalsy] at h
    obtain ⟨inner, -, h⟩ := ok_of_bind h
    obtain ⟨entries, -, h⟩ := ok_of_bind h
    obtain ⟨definitions, hdefinitions, h⟩ := ok_of_bind h
    obtain ⟨code, hcode, h⟩ := ok_of_bind h
    obtain ⟨word, hword, h⟩ := ok_of_bind h
    cases h
    exact .inr ⟨entries, hdefinitions, hcode, hword⟩

/-- All settings that are read are valid. -/
theorem valid_ofValue (h : ofValue room value = .ok settings) : settings.Valid := by
  obtain rfl | ⟨entries, hdefinitions, -, hword⟩ := cases_of_ofValue h
  · exact ⟨by decide, by simp⟩
  · exact ⟨isSome_of_readLevelWord hword, valid_of_readDefinitions hdefinitions⟩

/-! ## Registering the definitions -/

/-- A valid definition is registered unless its key is taken. -/
theorem register_eq {definition : SchemeDefinition} (h : definition.Valid) (registry : Registry) :
    ∃ scheme, definition.toScheme = .ok scheme ∧ scheme.code = definition.code ∧
      register registry definition =
        if Scheme.key definition.code ∈ registry.keys then
          .error (.settings (.unregistrable definition.code (.duplicate definition.code)))
        else
          .ok ⟨registry.schemes ++ [scheme]⟩ := by
  obtain ⟨scheme, hscheme, hcode⟩ := h.exists_toScheme
  refine ⟨scheme, hscheme, hcode, ?_⟩
  simp only [register, hscheme, Except.bind, registry.add_eq, hcode]
  by_cases htaken : Scheme.key definition.code ∈ registry.keys
  · rw [if_pos htaken, if_pos htaken]
  · rw [if_neg htaken, if_neg htaken]

/-- Valid definitions are registered one after the other, all of them or up to the first whose key
is taken by then. -/
theorem registerAll_cases (hvalid : ∀ definition ∈ definitions, definition.Valid)
    {registry : Registry} (hnodup : registry.keys.Nodup) :
    (∃ schemes, definitions.mapM toScheme = .ok schemes ∧
      registerAll registry definitions = (⟨registry.schemes ++ schemes⟩, none) ∧
      (registry.keys ++ schemeKeys definitions).Nodup) ∨
    ∃ before definition after, definitions = before ++ definition :: after ∧
      (registry.keys ++ schemeKeys before).Nodup ∧
      Scheme.key definition.code ∈ registry.keys ++ schemeKeys before ∧
      (registerAll registry definitions).2 =
        some (.settings (.unregistrable definition.code (.duplicate definition.code))) := by
  induction definitions generalizing registry with
  | nil => exact .inl ⟨[], rfl, by simp [registerAll], by simpa [schemeKeys] using hnodup⟩
  | cons first rest ih =>
    obtain ⟨hfirst, hrest⟩ := List.forall_mem_cons.1 hvalid
    obtain ⟨scheme, hscheme, hcode, hregister⟩ := register_eq hfirst registry
    by_cases htaken : Scheme.key first.code ∈ registry.keys
    · rw [if_pos htaken] at hregister
      exact .inr ⟨[], first, rest, rfl, by simpa [schemeKeys] using hnodup,
        List.mem_append_left _ htaken, by rw [registerAll, hregister]⟩
    · rw [if_neg htaken] at hregister
      -- The registry after the first step is the one to go on with: its keys and those of the rest
      -- are, all together, the same as before.
      let grown : Registry := ⟨registry.schemes ++ [scheme]⟩
      have hkeys : grown.keys = registry.keys ++ [Scheme.key first.code] := by
        simp [grown, Registry.keys, hcode]
      have hgrown : grown.keys.Nodup := by
        rw [hkeys, ← List.concat_eq_append]
        exact hnodup.concat htaken
      have hstep : registerAll registry (first :: rest) = registerAll grown rest := by
        rw [registerAll, hregister]
      have hmoved (others : List SchemeDefinition) :
          grown.keys ++ schemeKeys others = registry.keys ++ schemeKeys (first :: others) := by
        rw [hkeys, List.append_assoc]
        rfl
      obtain ⟨schemes, hschemes, hall, hfree⟩ |
        ⟨before, clashing, after, rfl, hfree, hclash, hfault⟩ := ih hrest hgrown
      · refine .inl ⟨scheme :: schemes, ?_, ?_, hmoved rest ▸ hfree⟩
        · rw [List.mapM_cons, hscheme, hschemes]
          rfl
        · rw [hstep, hall]
          simp [grown]
      · exact .inr ⟨first :: before, clashing, after, rfl, hmoved before ▸ hfree,
          hmoved before ▸ hclash, hstep ▸ hfault⟩

/-- Valid settings build the registry of the built-in schemes and the defined ones, in order, or
name the first definition that clashes with what comes before it. -/
theorem buildRegistry_cases (h : settings.Valid) :
    (ClashFree settings.definitions ∧
      ∃ schemes, settings.definitions.mapM toScheme = .ok schemes ∧
        settings.buildRegistry = .ok ⟨Scheme.builtins ++ schemes⟩) ∨
    (¬ClashFree settings.definitions ∧
      ∃ before definition after, settings.definitions = before ++ definition :: after ∧
        ClashFree before ∧ ¬ClashFree (before ++ [definition]) ∧
        settings.buildRegistry =
          .error (.settings (.unregistrable definition.code (.duplicate definition.code)))) := by
  have hvalid := h.definitions
  have hbuiltin : Registry.builtin.keys.Nodup := Registry.nodup_keys_initial true
  obtain ⟨schemes, hschemes, hall, hfree⟩ |
    ⟨before, definition, after, hsplit, hfree, hclash, hfault⟩ :=
    registerAll_cases hvalid hbuiltin
  · refine .inl ⟨(clashFree_iff hvalid).2 hfree, schemes, hschemes, ?_⟩
    rw [buildRegistry, hall]
    rfl
  · rw [hsplit] at hvalid
    have hupTo : ∀ other ∈ before ++ [definition], other.Valid := by
      intro other hother
      apply hvalid
      rw [List.append_cons]
      exact List.mem_append_left _ hother
    have hbefore : ∀ other ∈ before, other.Valid :=
      fun other hother => hupTo other (List.mem_append_left _ hother)
    have hfault : settings.buildRegistry =
        .error (.settings (.unregistrable definition.code (.duplicate definition.code))) := by
      rw [buildRegistry]
      generalize registerAll Registry.builtin settings.definitions = outcome at hfault
      obtain ⟨registry, fault?⟩ := outcome
      cases hfault
      rfl
    exact .inr ⟨hsplit ▸ not_clashFree hvalid hclash, before, definition, after, hsplit,
      (clashFree_iff hbefore).2 hfree, not_clashFree hupTo hclash, hfault⟩

/-- A log level that is read is a level of its own severity. -/
theorem Valid.exists_level (h : settings.Valid) :
    ∃ level, settings.level? = some level ∧ level.severity ∈ [10, 20, 30, 40, 50] := by
  obtain ⟨level, hlevel⟩ := Option.isSome_iff_exists.1 h.level
  refine ⟨level, hlevel, ?_⟩
  cases level <;> decide

/-- Reading settings from a mapping that JSON has ends in settings or in a fault of theirs, unless
their log level cannot be shown. The settings that are read have a log level, all their definitions
describe schemes, and they build a registry exactly if the definitions do not clash: it holds the
built-in schemes and the defined ones, in order. Otherwise the first that clashes is named. -/
theorem validation_complete (room : Nat) (given : List (Atom × Value))
    (hjson : (Value.mapping given).IsJson) :
    (∀ fault, ofValue room (.mapping given) = .error fault →
      (∃ cause, fault = .settings cause) ∨ ∃ cause, fault = .refusal (.unwritable cause)) ∧
    (∀ cause, ofValue room (.mapping given) = .error (.refusal (.unwritable cause)) ↔
      LevelUnwritable room cause (.mapping given)) ∧
    ∀ settings, ofValue room (.mapping given) = .ok settings →
      (∃ level, settings.level? = some level ∧ level.severity ∈ [10, 20, 30, 40, 50]) ∧
      (∀ definition ∈ settings.definitions, ∃ scheme, definition.toScheme = .ok scheme) ∧
      ((∃ registry, settings.buildRegistry = .ok registry) ↔ ClashFree settings.definitions) ∧
      (∀ registry, settings.buildRegistry = .ok registry →
        ∃ schemes, settings.definitions.mapM toScheme = .ok schemes ∧
          registry.schemes = Scheme.builtins ++ schemes) ∧
      ∀ fault, settings.buildRegistry = .error fault →
        ∃ before definition after, settings.definitions = before ++ definition :: after ∧
          ClashFree before ∧ ¬ClashFree (before ++ [definition]) ∧
          fault = .settings (.unregistrable definition.code (.duplicate definition.code)) := by
  refine ⟨?_, fun cause => ⟨?_, ofValue_of_levelUnwritable⟩, ?_⟩
  · intro fault h
    exact (error_of_ofValue hjson h).imp_right fun ⟨cause, hcause, _⟩ => ⟨cause, hcause⟩
  · intro h
    obtain ⟨_, ⟨⟩⟩ | ⟨_, ⟨⟩, hlevel⟩ := error_of_ofValue hjson h
    exact hlevel
  · intro settings h
    have hvalid := valid_ofValue h
    refine ⟨hvalid.exists_level, ?_, ?_⟩
    · intro definition hmem
      obtain ⟨scheme, hscheme, -⟩ := (hvalid.definitions definition hmem).exists_toScheme
      exact ⟨scheme, hscheme⟩
    · obtain ⟨hfree, schemes, hschemes, hbuild⟩ |
        ⟨hclash, before, definition, after, hsplit, hbefore, hupTo, hbuild⟩ :=
        buildRegistry_cases hvalid
      · refine ⟨iff_of_true ⟨_, hbuild⟩ hfree, ?_, ?_⟩
        · intro registry hregistry
          cases hbuild.symm.trans hregistry
          exact ⟨schemes, hschemes, rfl⟩
        · intro fault hfault
          cases hbuild.symm.trans hfault
      · refine ⟨iff_of_false ?_ hclash, ?_, ?_⟩
        · rintro ⟨registry, hregistry⟩
          cases hbuild.symm.trans hregistry
        · intro registry hregistry
          cases hbuild.symm.trans hregistry
        · intro fault hfault
          cases hbuild.symm.trans hfault
          exact ⟨before, definition, after, hsplit, hbefore, hupTo, rfl⟩

/-- Two definitions whose codes differ in blanks and case only. -/
theorem validation_complete_gradle :
    let given : List (Atom × Value) :=
      [(.text "log-level", .text "info"),
        (.text "schemes", .list
          [.object [("code", .text "Gradle")], .object [("code", .text " gradle")]])]
    let settings : Settings :=
      { levelWord := "info", definitions := [{ code := "Gradle" }, { code := " gradle" }] }
    (Value.mapping given).IsJson ∧ ofValue 0 (.mapping given) = .ok settings ∧
      ((∃ registry, settings.buildRegistry = .ok registry) ↔ ClashFree settings.definitions) ∧
      settings.buildRegistry =
        .error (.settings (.unregistrable " gradle" (.duplicate " gradle"))) := by
  intro given settings
  have hcode (code : String) : (Value.object [("code", .text code)]).IsJson := by
    apply Value.IsJson.mapping
    · simp
    · simp [Value.IsJson.text code]
  have hjson : (Value.mapping given).IsJson := by
    apply Value.IsJson.mapping
    · simp [given]
    · simp only [given, List.forall_mem_cons, List.not_mem_nil, false_imp_iff, implies_true,
        and_true]
      refine ⟨.text _, .list _ ?_⟩
      simp [hcode]
  have hread : ofValue 0 (.mapping given) = .ok settings := by rfl
  have hbuild := ((validation_complete 0 given hjson).2.2 settings hread).2.2.1
  exact ⟨hjson, hread, hbuild, by rfl⟩

/-- A log level that cannot be shown stops the reading of settings with nothing else in them. -/
theorem levelUnwritable_object {level : Value} {cause : WriteFault}
    (h : level.UnwritableBy room cause) :
    LevelUnwritable room cause (.object [("log_level", level)]) :=
  ⟨_, [("log_level", level)], [], "maven-default", level, rfl, rfl, rfl, rfl, rfl, h⟩

theorem unwritableBy_integer {n : Nat} (h : Nat.pow 10 Numeral.digitLimit ≤ n) (room : Nat) :
    ∃ cause, (Value.integer n).UnwritableBy room cause := by
  refine ((Value.integer n).write_cases room).resolve_left ?_
  rintro ⟨⟨hshort, -⟩, -⟩
  rw [Value.isShort, Atom.isWritable, decide_eq_true_iff, Int.natAbs_natCast] at hshort
  exact Nat.not_lt.2 h hshort

/-- Reading JSON can end in another fault than one of the settings, however much room there is. -/
theorem not_validation_complete :
    ¬∃ room, ∀ given : List (Atom × Value), (Value.mapping given).IsJson →
      (∃ settings, ofValue room (.mapping given) = .ok settings) ∨
        ∃ cause, ofValue room (.mapping given) = .error (.settings cause) := by
  rintro ⟨room, h⟩
  -- The number is named by its size only: it is never to be computed.
  obtain ⟨n, hn⟩ : ∃ n, Nat.pow 10 Numeral.digitLimit ≤ n := ⟨_, Nat.le_refl _⟩
  have hjson : (Value.mapping [(.text "log_level", .integer n)]).IsJson := by
    apply Value.IsJson.mapping
    · simp
    · simp [Value.IsJson.integer]
  obtain ⟨_, hunwritable⟩ := unwritableBy_integer hn room
  have hrefused := ofValue_of_levelUnwritable (levelUnwritable_object hunwritable)
  obtain ⟨settings, hread⟩ | ⟨cause, hfault⟩ := h _ hjson
  · cases hrefused.symm.trans hread
  · cases hrefused.symm.trans hfault

end Settings

end VersionOrder
