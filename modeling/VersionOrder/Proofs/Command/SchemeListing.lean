import VersionOrder.Proofs.Command.Running
import VersionOrder.Proofs.LowerCase
import VersionOrder.Proofs.SchemeDefinitions

/-!
# The list of schemes

The table of the registered schemes marks the default one. The default scheme is found by its key,
but the mark is set by codes in lower case, blanks and all. The two agree about case, so that no
other scheme is marked, and about blanks only if there are none around the code of the default
scheme. Rows and marks are those of the table that is handed to the console; if the console fails to
draw it, nothing is printed.

## Main definitions

- `Table.Marked`: the rows that carry the default mark
- `Scheme.RowOf`: the row of a scheme
- `Report.MarksDefault`: the reports whose only mark is the one of the default scheme
-/

namespace VersionOrder

/-! ## Registries of settings -/

namespace Settings

variable {settings : Settings} {registry grown : Registry} {scheme : Scheme}

theorem add_of_register {definition : SchemeDefinition}
    (h : register registry definition = .ok grown) :
    ∃ scheme, definition.toScheme = .ok scheme ∧ registry.add scheme = .ok grown := by
  unfold register at h
  split at h
  next => cases h
  next =>
    have hadd : definition.toScheme >>= registry.add = .ok grown := h
    exact ok_of_bind hadd

theorem nodup_keys_register {definition : SchemeDefinition} (h : registry.keys.Nodup)
    (hgrown : register registry definition = .ok grown) : grown.keys.Nodup := by
  obtain ⟨scheme, -, hadd⟩ := add_of_register hgrown
  have hafter := Registry.nodup_after h (.add scheme)
  rwa [Registry.after, Registry.perform, hadd] at hafter

/-- However many definitions are registered, the keys stay distinct. -/
theorem nodup_keys_registerAll (h : registry.keys.Nodup) (definitions : List SchemeDefinition) :
    (registerAll registry definitions).1.keys.Nodup := by
  induction definitions generalizing registry with
  | nil => exact h
  | cons definition rest ih =>
    unfold registerAll
    split
    next grown hgrown => exact ih (nodup_keys_register h hgrown)
    next => exact h

theorem registerAll_of_buildRegistry (h : settings.buildRegistry = .ok registry) :
    registerAll Registry.builtin settings.definitions = (registry, none) := by
  unfold buildRegistry at h
  split at h
  next heq =>
    cases h
    exact heq
  next => cases h

theorem nodup_keys_of_buildRegistry (h : settings.buildRegistry = .ok registry) :
    registry.keys.Nodup := by
  have hbuiltin : Registry.builtin.keys.Nodup := Registry.nodup_keys_initial true
  have hnodup := nodup_keys_registerAll hbuiltin settings.definitions
  rwa [registerAll_of_buildRegistry h] at hnodup

/-- The default scheme is the registered one with the key of the default code. -/
theorem defaultSchemeIn_eq_ok_iff (h : settings.buildRegistry = .ok registry) :
    settings.defaultSchemeIn registry = .ok scheme ↔
      Scheme.key settings.defaultCode ≠ [] ∧ scheme ∈ registry.schemes ∧
        Scheme.key scheme.code = Scheme.key settings.defaultCode := by
  rw [← Registry.find?_eq_some_iff (nodup_keys_of_buildRegistry h), defaultSchemeIn]
  cases registry.find? settings.defaultCode <;> simp

end Settings

/-! ## Rows and marks -/

/-- The row at a place has a star under the heading of the default mark. -/
def Table.Marked (table : Table) (place : Nat) : Prop :=
  ∃ row, table.rows[place]? = some row ∧ ("Default", "*") ∈ table.columns.zip row

/-- The row of a scheme: the words for its parts, and a mark. -/
def Scheme.RowOf (scheme : Scheme) (row : List String) : Prop :=
  ∃ mark, row = [scheme.code, scheme.origin.code, scheme.comparator.name, scheme.layout.code,
    scheme.style.buildFormat.code, mark]

namespace Command

theorem forall₂_rowOf (session : Session) :
    List.Forall₂ Scheme.RowOf session.registry.schemes (schemeTable session).rows := by
  rw [schemeTable, List.forall₂_map_right_iff, List.forall₂_same]
  exact fun scheme _ => ⟨_, rfl⟩

theorem marked_iff (session : Session) (place : Nat) :
    (schemeTable session).Marked place ↔ ∃ scheme, session.registry.schemes[place]? = some scheme ∧
      Text.lower scheme.code.toList = Scheme.key session.settings.defaultCode := by
  have hrow (scheme : Scheme) :
      ("Default", "*") ∈ (schemeTable session).columns.zip
          (schemeRow session.settings.defaultCode scheme) ↔
        Text.lower scheme.code.toList = Scheme.key session.settings.defaultCode := by
    by_cases h : Text.lower scheme.code.toList = Scheme.key session.settings.defaultCode <;>
      simp [schemeTable, schemeRow, h]
  constructor
  · rintro ⟨row, hfound, hmark⟩
    rw [schemeTable, List.getElem?_map, Option.map_eq_some_iff] at hfound
    obtain ⟨scheme, hscheme, rfl⟩ := hfound
    exact ⟨scheme, hscheme, (hrow scheme).1 hmark⟩
  · rintro ⟨scheme, hscheme, hkey⟩
    refine ⟨_, ?_, (hrow scheme).2 hkey⟩
    rw [schemeTable, List.getElem?_map, hscheme, Option.map_some]

/-- The table of the schemes is printed if the console draws it. Otherwise nothing is printed, and
the failure is in no category. -/
theorem report_schemes (console : Console) (session : Session) (threshold : LogLevel)
    (log : List LogRecord) :
    (∃ lines, console.draw (schemeTable session) = .ok lines ∧
      (schemes.report console session threshold log).output =
        [.table (schemeTable session) lines]) ∨
    ∃ fault, console.draw (schemeTable session) = .error fault ∧
      (schemes.report console session threshold log).output = [] ∧
      (schemes.report console session threshold log).exitCode = 1 := by
  have hgives : Logged.Gives (schemes.answer console session)
      (do return { output := [.table (schemeTable session)
        (← console.drawn (schemeTable session))] }) := by
    rw [answer, printTable]
    refine (Logged.gives_ofExcept _).bind ?_
    exact fun lines _ => Logged.gives_pure _
  obtain ⟨logged, hreport⟩ := report_of_gives hgives threshold log
  rw [hreport, Console.drawn]
  cases console.draw (schemeTable session) with
  | ok lines => exact .inl ⟨lines, rfl, rfl⟩
  | error fault => exact .inr ⟨fault, rfl, rfl, rfl⟩

end Command

namespace Report

/-- One table is printed. It has the rows of the schemes, in order, and exactly one of them carries
the mark, which is the row of the given scheme. -/
def MarksDefault (report : Report) (schemes : List Scheme) (scheme : Scheme) : Prop :=
  ∃ table lines, report.output = [.table table lines] ∧
    List.Forall₂ Scheme.RowOf schemes table.rows ∧
    ∃ place, schemes[place]? = some scheme ∧ ∀ other, table.Marked other ↔ other = place

end Report

namespace Command

variable {settings : Settings} {registry : Registry} {scheme : Scheme}

theorem exists_place (hregistry : settings.buildRegistry = .ok registry)
    (hdefault : settings.defaultSchemeIn registry = .ok scheme) :
    ∃ place : Nat, ∀ other : Nat, registry.schemes[other]? = some scheme ↔ other = place := by
  have hnodup := Settings.nodup_keys_of_buildRegistry hregistry
  obtain ⟨-, hmem, -⟩ := (Settings.defaultSchemeIn_eq_ok_iff hregistry).1 hdefault
  obtain ⟨place, hplace⟩ := List.mem_iff_getElem?.1 hmem
  refine ⟨place, ?_⟩
  intro other
  constructor
  · intro hother
    obtain ⟨hlength, -⟩ := List.getElem?_eq_some_iff.1 hother
    exact (List.getElem?_inj hlength (List.Nodup.of_map _ hnodup)).1 (hother.trans hplace.symm)
  · rintro rfl
    exact hplace

/-- Only the default scheme can have the mark, and it has it if its code has no blanks around it. -/
theorem marked_iff_default (hregistry : settings.buildRegistry = .ok registry)
    (hdefault : settings.defaultSchemeIn registry = .ok scheme) (place : Nat) :
    (schemeTable ⟨settings, registry⟩).Marked place ↔
      registry.schemes[place]? = some scheme ∧ Text.Trimmed scheme.code.toList := by
  have hnodup := Settings.nodup_keys_of_buildRegistry hregistry
  obtain ⟨-, hmem, hkey⟩ := (Settings.defaultSchemeIn_eq_ok_iff hregistry).1 hdefault
  rw [marked_iff]
  constructor
  · rintro ⟨other, hother, hlower⟩
    -- A code whose lower case is a key has that key itself, and keys tell the schemes apart.
    obtain ⟨htrimmed, hsame⟩ := Scheme.lower_eq_key_iff.1 hlower
    obtain rfl := List.inj_on_of_nodup_map hnodup (List.mem_of_getElem? hother) hmem
      (hsame.trans hkey.symm)
    exact ⟨hother, htrimmed⟩
  · rintro ⟨hscheme, htrimmed⟩
    exact ⟨scheme, hscheme, Scheme.lower_eq_key_iff.2 ⟨htrimmed, hkey⟩⟩

theorem marksDefault_iff_trimmed (hregistry : settings.buildRegistry = .ok registry)
    (hdefault : settings.defaultSchemeIn registry = .ok scheme) {report : Report}
    {lines : List String}
    (houtput : report.output = [.table (schemeTable ⟨settings, registry⟩) lines]) :
    report.MarksDefault registry.schemes scheme ↔ Text.Trimmed scheme.code.toList := by
  have hmarked := marked_iff_default hregistry hdefault
  constructor
  · rintro ⟨table, others, hother, -, place, -, hplace⟩
    obtain ⟨rfl, -⟩ : schemeTable ⟨settings, registry⟩ = table ∧ lines = others := by
      simpa [houtput] using hother
    exact ((hmarked place).1 ((hplace place).2 rfl)).2
  · intro htrimmed
    obtain ⟨place, hplace⟩ := exists_place hregistry hdefault
    refine ⟨_, lines, houtput, forall₂_rowOf ⟨settings, registry⟩, place, (hplace place).2 rfl, ?_⟩
    intro other
    rw [hmarked, and_iff_left htrimmed, hplace]

/-- The only mark in the list of schemes is the one of the default scheme exactly if the list is
drawn at all and the code of the default scheme has no blanks around it. No other scheme is ever
marked. If the console fails to draw the list, nothing is printed. -/
theorem schemes_marksDefault_iff (hregistry : settings.buildRegistry = .ok registry)
    (hdefault : settings.defaultSchemeIn registry = .ok scheme) (host : Host) :
    (∀ threshold log, let report := schemes.report host.console ⟨settings, registry⟩ threshold log
      (report.MarksDefault registry.schemes scheme ↔
        (∃ lines, host.console.draw (schemeTable ⟨settings, registry⟩) = .ok lines) ∧
          Text.Trimmed scheme.code.toList) ∧
      (∀ table lines place, report.output = [.table table lines] → table.Marked place →
        registry.schemes[place]? = some scheme) ∧
      ∀ fault, host.console.draw (schemeTable ⟨settings, registry⟩) = .error fault →
        report.output = [] ∧ report.exitCode = 1) ∧
    ∀ files environment settingsPath? words,
      schemes.SpelledBy host.parser settingsPath? words →
      Settings.load host.readers files (settingsPath?.map FilePath.ofString) environment =
        .ok settings →
      ∃ threshold log, run host files environment words =
        .finished (schemes.report host.console ⟨settings, registry⟩ threshold log) := by
  constructor
  · intro threshold log
    obtain ⟨lines, hdraw, houtput⟩ | ⟨fault, hdraw, houtput, hexit⟩ :=
      report_schemes host.console ⟨settings, registry⟩ threshold log
    · refine ⟨?_, ?_, ?_⟩
      · rw [marksDefault_iff_trimmed hregistry hdefault houtput, and_iff_right ⟨lines, hdraw⟩]
      · intro table others place hother hmark
        obtain ⟨rfl, -⟩ : schemeTable ⟨settings, registry⟩ = table ∧ lines = others := by
          simpa [houtput] using hother
        exact ((marked_iff_default hregistry hdefault place).1 hmark).1
      · intro fault hfault
        cases hdraw.symm.trans hfault
    · have hnone (table : Table) (lines : List String) :
          (schemes.report host.console ⟨settings, registry⟩ threshold log).output ≠
            [.table table lines] := by
        simp [houtput]
      refine ⟨iff_of_false ?_ ?_, ?_, ?_⟩
      · rintro ⟨table, lines, htable, -⟩
        exact hnone table lines htable
      · rintro ⟨⟨lines, hlines⟩, -⟩
        cases hdraw.symm.trans hlines
      · intro table lines place htable
        exact absurd htable (hnone table lines)
      · exact fun _ _ => ⟨houtput, hexit⟩
  · intro files environment settingsPath? words hwords hsettings
    exact run_of_spelledBy hwords hsettings (Settings.registerAll_of_buildRegistry hregistry)

/-- The built-in schemes as a console of eighty columns draws them, with `semver-default` marked. -/
def semverLines : List String := [
  "┏━━━━━━━━━━━━━━━━━━━━━━━━━━━━━━┳━━━━━━━━━┳━━━━━━━━━┳━━━━━━━━┳━━━━━━━━━┳━━━━━━━━┓",
  "┃ Code                         ┃ Origin  ┃ Compar… ┃ Struc… ┃ Format  ┃ Defau… ┃",
  "┡━━━━━━━━━━━━━━━━━━━━━━━━━━━━━━╇━━━━━━━━━╇━━━━━━━━━╇━━━━━━━━╇━━━━━━━━━╇━━━━━━━━┩",
  "│ maven-default                │ builtin │ MavenL… │ no-bu… │ omit    │        │",
  "│ maven-build-metadata-ignored │ builtin │ MavenL… │ build… │ map-to… │        │",
  "│ semver-default               │ builtin │ Semver… │ build… │ emit    │   *    │",
  "│ semver-build-first           │ builtin │ Semver… │ build… │ emit    │        │",
  "│ semver-build-ordered         │ builtin │ Semver… │ build… │ emit    │        │",
  "│ calver-default               │ builtin │ Calver… │ no-bu… │ omit    │        │",
  "└──────────────────────────────┴─────────┴─────────┴────────┴─────────┴────────┘"]

/-- The environment names a built-in scheme in capitals and with blanks around its code, and that
scheme is marked. -/
theorem schemes_marksDefault_iff_semver :
    let host : Host :=
      { readers := ⟨fun _ => .error .malformed, fun _ => .error .malformed, 985, 985⟩
        parser := Parser.longNames
        console := ⟨id, fun _ => .ok semverLines⟩ }
    ∃ report,
      run host (fun _ => .missing) [("VERSPAN_DEFAULT_SCHEME", " SEMVER-Default ")]
        ["schemes".toList] = .finished report ∧
      report.MarksDefault Scheme.builtins .semverDefault := by
  intro host
  let settings : Settings := { defaultCode := "SEMVER-Default" }
  have hregistry : settings.buildRegistry = .ok Registry.builtin := rfl
  have hdefault : settings.defaultSchemeIn Registry.builtin = .ok .semverDefault :=
    (Settings.defaultSchemeIn_eq_ok_iff hregistry).2
      ⟨by decide, by simp [Registry.builtin, Scheme.builtins], by decide⟩
  obtain ⟨hreport, hrun⟩ := schemes_marksDefault_iff hregistry hdefault host
  obtain ⟨threshold, log, hfinished⟩ := hrun (fun _ => .missing)
    [("VERSPAN_DEFAULT_SCHEME", " SEMVER-Default ")] none ["schemes".toList]
    ⟨{ verb := .schemes, words := [] }, rfl, rfl, rfl⟩ rfl
  obtain ⟨hmarks, -, -⟩ := hreport threshold log
  exact ⟨_, hfinished, hmarks.2 ⟨⟨_, rfl⟩, Text.trim_eq_self_iff.1 rfl⟩⟩

/-- A scheme whose code is defined with blanks around it is found without them, and not marked. -/
theorem not_schemes_marksDefault :
    ¬∀ console : Console, (∀ table, ∃ lines, console.draw table = .ok lines) →
      ∀ (settings : Settings) (registry : Registry) (scheme : Scheme) (threshold : LogLevel)
        (log : List LogRecord), settings.buildRegistry = .ok registry →
        settings.defaultSchemeIn registry = .ok scheme →
        (schemes.report console ⟨settings, registry⟩ threshold log).MarksDefault registry.schemes
          scheme := by
  intro h
  let console : Console := ⟨id, fun _ => .ok []⟩
  let settings : Settings := { defaultCode := "mine", definitions := [{ code := " mine " }] }
  let scheme : Scheme :=
    { code := " mine ", comparator := .maven, layout := { code := " mine -structure" },
      style := { code := " mine -format" } }
  let registry : Registry := ⟨Scheme.builtins ++ [scheme]⟩
  have hregistry : settings.buildRegistry = .ok registry := rfl
  have hdefault : settings.defaultSchemeIn registry = .ok scheme :=
    (Settings.defaultSchemeIn_eq_ok_iff hregistry).2
      ⟨by decide, by simp [registry], by decide⟩
  have hmarks := h console (fun _ => ⟨[], rfl⟩) settings registry scheme .warning [] hregistry
    hdefault
  obtain ⟨lines, -, houtput⟩ | ⟨_, hfailed, -⟩ :=
    report_schemes console ⟨settings, registry⟩ .warning []
  · have htrimmed := (marksDefault_iff_trimmed hregistry hdefault houtput).1 hmarks
    exact absurd (Text.trim_eq_self_iff.2 htrimmed) (by decide)
  · cases hfailed

end Command

end VersionOrder
