import Mathlib.Data.List.Forall2
import VersionOrder.Proofs.Interval.Validity
import VersionOrder.Proofs.Registration
import VersionOrder.Settings.Definition

/-!
# Reading scheme definitions

Where a definition is read from a value as JSON has them, nothing but a fault of the settings can
stop it; and a definition that has been read describes a scheme.
-/

namespace VersionOrder

variable {α β : Type}

section Lists

variable {f : α → Except Fault β} {items : List α}

/-- The members of a list that is read are read one by one. -/
theorem forall₂_of_mapM {results : List β} (h : items.mapM f = .ok results) :
    List.Forall₂ (fun item result => f item = .ok result) items results := by
  induction items generalizing results with
  | nil =>
    cases h
    exact .nil
  | cons item items ih =>
    rw [List.mapM_cons] at h
    obtain ⟨result, hitem, h⟩ := ok_of_bind h
    obtain ⟨rest, hrest, h⟩ := ok_of_bind h
    cases h
    exact .cons hitem (ih hrest)

/-- A list that is not read has a member that is not. -/
theorem exists_error_of_mapM {fault : Fault} (h : items.mapM f = .error fault) :
    ∃ item ∈ items, f item = .error fault := by
  induction items with
  | nil => cases h
  | cons item items ih =>
    rw [List.mapM_cons] at h
    obtain hitem | ⟨result, -, h⟩ := error_of_bind h
    · exact ⟨item, List.mem_cons_self, hitem⟩
    · obtain hrest | ⟨rest, -, h⟩ := error_of_bind h
      · obtain ⟨later, hlater, hfault⟩ := ih hrest
        exact ⟨later, List.mem_cons_of_mem item hlater, hfault⟩
      · cases h

end Lists

/-- A computation that fails only for what is wrong with settings. -/
def SettingsOnly (result : Except Fault α) : Prop :=
  ∀ fault, result = .error fault → ∃ cause, fault = .settings cause

namespace SettingsOnly

theorem ok (a : α) : SettingsOnly (.ok a) :=
  fun _ h => nomatch h

theorem error (cause : SettingsFault) :
    SettingsOnly (.error (.settings cause) : Except Fault α) := by
  rintro fault ⟨⟩
  exact ⟨cause, rfl⟩

theorem bind {first : Except Fault α} {next : α → Except Fault β} (hfirst : SettingsOnly first)
    (hnext : ∀ a, first = .ok a → SettingsOnly (next a)) : SettingsOnly (first >>= next) := by
  intro fault h
  obtain hfault | ⟨a, ha, hfault⟩ := error_of_bind h
  · exact hfirst fault hfault
  · exact hnext a ha fault hfault

theorem mapM {f : α → Except Fault β} {items : List α}
    (h : ∀ item ∈ items, SettingsOnly (f item)) : SettingsOnly (items.mapM f) := by
  intro fault hfault
  obtain ⟨item, hitem, hfault⟩ := exists_error_of_mapM hfault
  exact h item hitem fault hfault

end SettingsOnly

/-! ## Entries -/

namespace Value

/-- The values that JSON has: the keys of a mapping are texts, and there are neither pairs nor sets,
nor dates, times and bytes. -/
inductive IsJson : Value → Prop where
  | null : IsJson .null
  | boolean (b : Bool) : IsJson (.boolean b)
  | integer (n : Int) : IsJson (.integer n)
  | real (x : Binary64) : IsJson (.real x)
  | text (s : String) : IsJson (.text s)
  | list (items : List Value) : (∀ item ∈ items, IsJson item) → IsJson (.list items)
  | mapping (entries : List (Atom × Value)) : (∀ entry ∈ entries, ∃ key, entry.1 = .text key) →
    (∀ entry ∈ entries, IsJson entry.2) → IsJson (.mapping entries)

theorem exists_mem_of_lookup {κ : Type} [BEq κ] {entries : List (κ × α)} {key : κ} {value : α}
    (h : entries.lookup key = some value) : ∃ entry ∈ entries, entry.2 = value := by
  induction entries with
  | nil => cases h
  | cons entry rest ih =>
    rw [List.lookup_cons] at h
    split at h
    · cases h
      exact ⟨entry, List.mem_cons_self, rfl⟩
    · obtain ⟨found, hfound, hvalue⟩ := ih h
      exact ⟨found, List.mem_cons_of_mem entry hfound, hvalue⟩

section Insertion

variable {κ : Type} [BEq κ] {p : α → Prop} {entries : List (κ × α)}

theorem forall_mem_insert (h : ∀ entry ∈ entries, p entry.2) (key : κ) {value : α}
    (hvalue : p value) : ∀ entry ∈ insert entries key value, p entry.2 := by
  induction entries with
  | nil => simpa [insert] using hvalue
  | cons entry rest ih =>
    obtain ⟨hentry, hrest⟩ := List.forall_mem_cons.1 h
    rw [insert]
    split
    · exact List.forall_mem_cons.2 ⟨hvalue, hrest⟩
    · exact List.forall_mem_cons.2 ⟨hentry, ih hrest⟩

/-- Putting entries together adds no values. -/
theorem forall_mem_ofEntries (h : ∀ entry ∈ entries, p entry.2) :
    ∀ entry ∈ ofEntries entries, p entry.2 := by
  suffices ∀ known : List (κ × α), (∀ entry ∈ known, p entry.2) → ∀ entry ∈
      entries.foldl (fun known (key, value) => insert known key value) known, p entry.2 from
    this [] (by simp)
  induction entries with
  | nil => exact fun _ hknown => hknown
  | cons entry rest ih =>
    obtain ⟨hentry, hrest⟩ := List.forall_mem_cons.1 h
    intro known hknown
    exact ih hrest _ (forall_mem_insert hknown entry.1 hentry)

end Insertion

end Value

section KnownEntries

variable {place : String} {allowed : List String} {value : Value} {entries : List (String × Value)}

/-- Keys that are texts can be written, so only an unknown one is refused. -/
theorem knownEntries_eq (place : String) (allowed : List String) {given : List (Atom × Value)}
    (h : ∀ entry ∈ given, ∃ key, entry.1 = .text key) :
    let known := Value.ofEntries (given.map fun entry => (keySpelling entry.1.word, entry.2))
    let unknown := (known.map Prod.fst).filter fun key => !allowed.contains key
    knownEntries place allowed (.mapping given) =
      if unknown.isEmpty then .ok known
      else .error (.settings (.unknownKeys place (sortedWords unknown) (sortedWords allowed))) := by
  intro known unknown
  have hwritable : (given.any fun entry => !entry.1.isWritable) = false := by
    rw [List.any_eq_false]
    intro entry hentry
    obtain ⟨key, hkey⟩ := h entry hentry
    simp [hkey, Atom.isWritable]
  simp only [knownEntries, hwritable, Bool.false_eq_true, if_false]
  rfl

theorem knownEntries_mapping (place : String) (allowed : List String)
    {given : List (Atom × Value)} (h : ∀ entry ∈ given, ∃ key, entry.1 = .text key) :
    let known := Value.ofEntries (given.map fun (key, value) => (keySpelling key.word, value))
    knownEntries place allowed (.mapping given) = .ok known ∨
      ∃ cause, knownEntries place allowed (.mapping given) = .error (.settings cause) := by
  intro known
  rw [knownEntries_eq place allowed h]
  split
  · exact .inl rfl
  · exact .inr ⟨_, rfl⟩

theorem settingsOnly_knownEntries (h : value.IsJson) :
    SettingsOnly (knownEntries place allowed value) := by
  cases h with
  | mapping given hkeys _ =>
    obtain hknown | ⟨cause, hfault⟩ := knownEntries_mapping place allowed hkeys
    · rw [hknown]
      exact .ok _
    · rw [hfault]
      exact .error cause
  | _ => exact .error _

theorem isJson_of_knownEntries (h : value.IsJson)
    (hentries : knownEntries place allowed value = .ok entries) :
    ∀ entry ∈ entries, entry.2.IsJson := by
  cases h with
  | mapping given hkeys hvalues =>
    obtain hknown | ⟨cause, hfault⟩ := knownEntries_mapping place allowed hkeys
    · cases hknown.symm.trans hentries
      apply Value.forall_mem_ofEntries
      intro entry hentry
      obtain ⟨old, hold, rfl⟩ := List.mem_map.1 hentry
      exact hvalues old hold
    · cases hfault.symm.trans hentries
  | _ => cases hentries

end KnownEntries

/-! ## Definitions -/

namespace SchemeDefinition

variable {value : Value} {definition : SchemeDefinition}

theorem settingsOnly_codeField (entries : List (String × Value)) :
    SettingsOnly (codeField entries) := by
  unfold codeField
  split
  · exact .error _
  · split
    · exact .error _
    · exact .ok _
  · exact .error _

theorem settingsOnly_textField (entries : List (String × Value)) (code key fallback : String) :
    SettingsOnly (textField entries code key fallback) := by
  unfold textField
  split
  · exact .ok _
  · exact .ok _
  · exact .error _

theorem settingsOnly_readFamily (word code : String) : SettingsOnly (readFamily word code) := by
  unfold readFamily
  split
  · exact .ok _
  · exact .error _

theorem settingsOnly_orderField (entries : List (String × Value)) (code : String) :
    SettingsOnly (orderField entries code) := by
  unfold orderField
  split
  · exact .ok _
  · exact .ok _
  · exact .error _

theorem settingsOnly_checkPolicies (definition : SchemeDefinition) :
    SettingsOnly (checkPolicies definition) := by
  unfold checkPolicies
  split
  · exact .error _
  · exact .error _
  · exact .ok _

/-- Past the keys of a definition, only what is wrong with settings stops its reading. -/
theorem settingsOnly_of_knownEntries
    (h : SettingsOnly (knownEntries "scheme definition" keys value)) :
    SettingsOnly (ofValue value) := by
  apply h.bind
  intro entries _
  apply (settingsOnly_codeField entries).bind
  intro code _
  have htext := settingsOnly_textField entries code
  apply (htext "comparator" _).bind
  intro comparator _
  apply (htext "build_delimiter" _).bind
  intro delimiter _
  apply (htext "build_comparison" _).bind
  intro comparisonWord _
  apply (htext "build_format" _).bind
  intro formatWord _
  apply (htext "mapped_build_prefix" _).bind
  intro buildLabel _
  apply (htext "qualifier_delimiter" _).bind
  intro qualifierDelimiter _
  apply (htext "qualifier_token_delimiter" _).bind
  intro tokenDelimiter _
  apply (settingsOnly_readFamily comparator code).bind
  intro family _
  apply (settingsOnly_orderField entries code).bind
  intro versionFirst _
  exact settingsOnly_checkPolicies _

/-- Whatever JSON stands in the place of a definition, it is read or found wrong as settings. -/
theorem settingsOnly_ofValue (h : value.IsJson) : SettingsOnly (ofValue value) :=
  settingsOnly_of_knownEntries (settingsOnly_knownEntries h)

/-- A definition whose code is not blank and whose words name policies. -/
structure Valid (definition : SchemeDefinition) : Prop where
  named : Text.allBlank definition.code.toList = false
  comparison : ∃ comparison, BuildComparison.ofWord definition.comparisonWord = .ok comparison
  format : ∃ buildFormat, BuildFormat.ofWord definition.formatWord = .ok buildFormat

theorem not_allBlank_of_codeField {entries : List (String × Value)} {code : String}
    (h : codeField entries = .ok code) : Text.allBlank code.toList = false := by
  unfold codeField at h
  split at h
  · cases h
  · split at h
    · cases h
    next hblank =>
      cases h
      exact Bool.not_eq_true _ ▸ hblank
  · cases h

/-- The check of the policies changes nothing. -/
theorem of_checkPolicies {given : SchemeDefinition} (h : given.checkPolicies = .ok definition) :
    definition = given ∧
      (∃ comparison, BuildComparison.ofWord given.comparisonWord = .ok comparison) ∧
      ∃ buildFormat, BuildFormat.ofWord given.formatWord = .ok buildFormat := by
  unfold checkPolicies at h
  split at h
  · cases h
  · cases h
  next comparison buildFormat hcomparison hformat =>
    cases h
    exact ⟨rfl, ⟨comparison, hcomparison⟩, ⟨buildFormat, hformat⟩⟩

/-- Every definition that is read is valid. -/
theorem valid_of_ofValue (h : ofValue value = .ok definition) : definition.Valid := by
  obtain ⟨entries, -, h⟩ := ok_of_bind h
  obtain ⟨code, hcode, h⟩ := ok_of_bind h
  obtain ⟨comparator, -, h⟩ := ok_of_bind h
  obtain ⟨delimiter, -, h⟩ := ok_of_bind h
  obtain ⟨comparisonWord, -, h⟩ := ok_of_bind h
  obtain ⟨formatWord, -, h⟩ := ok_of_bind h
  obtain ⟨buildLabel, -, h⟩ := ok_of_bind h
  obtain ⟨qualifierDelimiter, -, h⟩ := ok_of_bind h
  obtain ⟨tokenDelimiter, -, h⟩ := ok_of_bind h
  obtain ⟨family, -, h⟩ := ok_of_bind h
  obtain ⟨versionFirst, -, h⟩ := ok_of_bind h
  obtain ⟨rfl, hcomparison, hformat⟩ := of_checkPolicies h
  exact ⟨not_allBlank_of_codeField hcode, hcomparison, hformat⟩

/-- A code that is not blank stays so with something behind it. -/
theorem not_allBlank_append {code : String} (h : Text.allBlank code.toList = false)
    (ending : String) : Text.allBlank (code ++ ending).toList = false := by
  rw [String.toList_append, Text.allBlank, List.all_append]
  rw [Text.allBlank] at h
  rw [h, Bool.false_and]

/-- A valid definition describes a scheme, which is known by the code of the definition. -/
theorem Valid.exists_toScheme (h : definition.Valid) :
    ∃ scheme, definition.toScheme = .ok scheme ∧ scheme.code = definition.code := by
  obtain ⟨comparison, hcomparison⟩ := h.comparison
  obtain ⟨buildFormat, hformat⟩ := h.format
  have hlayout := not_allBlank_append h.named "-structure"
  have hstyle := not_allBlank_append h.named "-format"
  simp only [toScheme, liftRefusal, hcomparison, hformat, Layout.validate, Style.validate, hlayout,
    hstyle, Scheme.make, h.named, bind, Except.bind, Bool.false_eq_true, if_false,
    Except.ok.injEq, exists_eq_left']

end SchemeDefinition

end VersionOrder
