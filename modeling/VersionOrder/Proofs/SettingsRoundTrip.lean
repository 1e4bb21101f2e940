import VersionOrder.Proofs.SettingsValidation

/-!
# Writing settings and reading them again

Settings that have been read are written as a mapping that is read as the same settings, field by
field and definition by definition. The keys may be spelled with hyphens in the place of underscores,
each in its own way, and the whole may be nested under a table of its own.

## Main definitions

- `Hyphenated`: a key with hyphens in the place of some underscores
- `Value.Respelled`: a value whose keys are spelled in another way, at any depth
-/

namespace VersionOrder

/-- A key, and the same key with hyphens in the place of some of its underscores. -/
def Hyphenated (key spelling : String) : Prop :=
  List.Forall₂ (fun c d => d = c ∨ (c = '_' ∧ d = '-')) key.toList spelling.toList

instance (key spelling : String) : Decidable (Hyphenated key spelling) :=
  inferInstanceAs (Decidable (List.Forall₂ _ _ _))

theorem Hyphenated.refl (key : String) : Hyphenated key key :=
  List.forall₂_same.2 fun _ _ => .inl rfl

theorem keySpelling_of_hyphenated {key spelling : String} (h : Hyphenated key spelling)
    (hkey : '-' ∉ key.toList) : keySpelling spelling = key := by
  suffices Text.replaceChar '-' '_' spelling.toList = key.toList by
    rw [keySpelling, this, String.ofList_toList]
  unfold Hyphenated at h
  generalize key.toList = s, spelling.toList = t at h hkey
  induction h with
  | nil => rfl
  | cons hchar _ ih =>
    obtain ⟨hhere, hlater⟩ := not_or.1 (List.mem_cons.not.1 hkey)
    have hrest := ih hlater
    rw [Text.replaceChar] at hrest ⊢
    rw [List.map_cons, hrest]
    rcases hchar with rfl | ⟨rfl, rfl⟩
    · rw [if_neg (Ne.symm hhere)]
    · rfl

namespace Value

/-! ## Entries -/

section Entries

variable {κ α : Type} [BEq κ] [LawfulBEq κ] {entries : List (κ × α)}

theorem insert_of_notMem {key : κ} (h : key ∉ entries.map Prod.fst) (value : α) :
    insert entries key value = entries ++ [(key, value)] := by
  induction entries with
  | nil => rfl
  | cons entry rest ih =>
    obtain ⟨hhere, hlater⟩ := not_or.1 (List.mem_cons.not.1 h)
    rw [insert, if_neg (by simpa using hhere), ih hlater, List.cons_append]

/-- Entries with each key once are put together as they are. -/
theorem ofEntries_eq_self (h : (entries.map Prod.fst).Nodup) : ofEntries entries = entries := by
  suffices ∀ known : List (κ × α), ((known ++ entries).map Prod.fst).Nodup →
      entries.foldl (fun known entry => insert known entry.1 entry.2) known = known ++ entries from
    this [] h
  clear h
  induction entries with
  | nil => simp
  | cons entry rest ih =>
    intro known hnodup
    have hfresh : entry.1 ∉ known.map Prod.fst := by
      rw [List.map_append, List.map_cons] at hnodup
      exact fun hmem => List.disjoint_of_nodup_append hnodup hmem List.mem_cons_self
    rw [List.foldl_cons, insert_of_notMem hfresh, List.append_cons known _ rest]
    exact ih (known ++ [entry]) (by simpa using hnodup)

end Entries

/-! ## Spellings of keys -/

/-- The second value is the first with some of its keys spelled with hyphens, at any depth. -/
inductive Respelled : Value → Value → Prop where
  | refl (value : Value) : Respelled value value
  | item {item other : Value} {items others : List Value} : Respelled item other →
    Respelled (.list items) (.list others) → Respelled (.list (item :: items)) (.list (other :: others))
  | entry {key spelling : String} {value other : Value} {entries others : List (Atom × Value)} :
    Hyphenated key spelling → Respelled value other →
    Respelled (.mapping entries) (.mapping others) →
    Respelled (.mapping ((.text key, value) :: entries)) (.mapping ((.text spelling, other) :: others))

theorem Respelled.eq_of_atom {a : Atom} {value : Value} (h : Respelled (.atom a) value) :
    value = .atom a := by
  cases h
  rfl

theorem Respelled.exists_list {items : List Value} {value : Value}
    (h : Respelled (.list items) value) :
    ∃ others, value = .list others ∧ List.Forall₂ Respelled items others := by
  induction items generalizing value with
  | nil =>
    cases h
    exact ⟨[], rfl, .nil⟩
  | cons item items ih =>
    cases h with
    | refl => exact ⟨_, rfl, List.forall₂_same.2 fun item _ => .refl item⟩
    | item hitem hitems =>
      obtain ⟨others, hothers, hrest⟩ := ih hitems
      cases hothers
      exact ⟨_, rfl, .cons hitem hrest⟩

/-- An entry and the same entry with its key spelled in another way, and keys inside its value. -/
def RespelledEntry (entry other : String × Value) : Prop :=
  Hyphenated entry.1 other.1 ∧ Respelled entry.2 other.2

theorem Respelled.exists_object {entries : List (String × Value)} {value : Value}
    (h : Respelled (.object entries) value) :
    ∃ others, value = .object others ∧ List.Forall₂ RespelledEntry entries others := by
  induction entries generalizing value with
  | nil =>
    cases h
    exact ⟨[], rfl, .nil⟩
  | cons entry entries ih =>
    cases h with
    | refl => exact ⟨_, rfl, List.forall₂_same.2 fun entry _ => ⟨.refl entry.1, .refl entry.2⟩⟩
    | entry hkey hvalue hentries =>
      obtain ⟨others, hothers, hrest⟩ := ih hentries
      cases hothers
      exact ⟨(_, _) :: others, rfl, .cons ⟨hkey, hvalue⟩ hrest⟩

end Value

section KnownEntries

variable {entries others known : List (String × Value)}

/-- An entry, and the entry that is known for it: its key is the same, and keys inside its value may be
spelled in another way. -/
def SameKey (entry known : String × Value) : Prop :=
  known.1 = entry.1 ∧ Value.Respelled entry.2 known.2

theorem map_fst_of_sameKey (h : List.Forall₂ SameKey entries known) :
    known.map Prod.fst = entries.map Prod.fst := by
  induction h with
  | nil => rfl
  | cons hentry _ ih => rw [List.map_cons, List.map_cons, hentry.1, ih]

theorem eq_of_sameKey (h : List.Forall₂ SameKey entries known)
    (hatoms : ∀ entry ∈ entries, ∃ a, entry.2 = .atom a) : known = entries := by
  induction h with
  | nil => rfl
  | @cons entry other _ _ hentry _ ih =>
    obtain ⟨⟨a, ha⟩, hrest⟩ := List.forall_mem_cons.1 hatoms
    obtain ⟨hkey, hvalue⟩ := hentry
    rw [ha] at hvalue
    rw [ih hrest, Prod.ext hkey (hvalue.eq_of_atom.trans ha.symm)]

theorem exists_lookup_of_sameKey (h : List.Forall₂ SameKey entries known) (key : String)
    {value : Value} (hvalue : entries.lookup key = some value) :
    ∃ other, known.lookup key = some other ∧ Value.Respelled value other := by
  induction h with
  | nil => cases hvalue
  | @cons entry other _ _ hentry _ ih =>
    obtain ⟨hkey, hsame⟩ := hentry
    rw [List.lookup_cons] at hvalue ⊢
    rw [hkey]
    split at hvalue
    · cases hvalue
      exact ⟨_, rfl, hsame⟩
    · exact ih hvalue

theorem sameKey_of_respelled (h : List.Forall₂ Value.RespelledEntry entries others)
    (hplain : ∀ entry ∈ entries, '-' ∉ entry.1.toList) :
    List.Forall₂ SameKey entries (others.map fun other => (keySpelling other.1, other.2)) := by
  induction h with
  | nil => exact .nil
  | cons hentry _ ih =>
    obtain ⟨hhere, hrest⟩ := List.forall_mem_cons.1 hplain
    exact .cons ⟨keySpelling_of_hyphenated hentry.1 hhere, hentry.2⟩ (ih hrest)

/-- However the keys of entries are spelled, they are known as they were. -/
theorem knownEntries_respelled (place : String) (allowed : List String)
    (h : List.Forall₂ Value.RespelledEntry entries others)
    (hplain : ∀ entry ∈ entries, '-' ∉ entry.1.toList) (hnodup : (entries.map Prod.fst).Nodup)
    (hallowed : ∀ key ∈ entries.map Prod.fst, key ∈ allowed) :
    ∃ known, knownEntries place allowed (.object others) = .ok known ∧
      List.Forall₂ SameKey entries known := by
  have hsame := sameKey_of_respelled h hplain
  have hkeys := map_fst_of_sameKey hsame
  refine ⟨_, ?_, hsame⟩
  have htexts : ∀ entry ∈ others.map fun other => (Atom.text other.1, other.2),
      ∃ key, entry.1 = .text key := by
    intro entry hentry
    obtain ⟨other, -, rfl⟩ := List.mem_map.1 hentry
    exact ⟨other.1, rfl⟩
  have hentries : Value.ofEntries ((others.map fun other => (Atom.text other.1, other.2)).map
      fun entry => (keySpelling entry.1.word, entry.2)) =
        others.map fun other => (keySpelling other.1, other.2) := by
    rw [List.map_map]
    exact Value.ofEntries_eq_self (hkeys ▸ hnodup)
  have hnone : ((entries.map Prod.fst).filter fun key => !allowed.contains key) = [] :=
    List.filter_eq_nil_iff.2 (by simpa using hallowed)
  show knownEntries place allowed (.mapping (others.map fun other => (.text other.1, other.2))) = _
  rw [knownEntries_eq place allowed htexts, hentries, hkeys, hnone]
  rfl

end KnownEntries

/-! ## Definitions -/

theorem Family.ofWord?_code (family : Family) : ofWord? family.code = some family := by
  cases family <;> rfl

namespace SchemeDefinition

variable {definition : SchemeDefinition} {value : Value}

/-- The mapping of a valid definition is read field by field. -/
theorem Valid.ofValue_eq (h : definition.Valid) {given : Value}
    (hgiven : knownEntries "scheme definition" keys given = .ok definition.toEntries) :
    ofValue given = .ok definition := by
  obtain ⟨comparison, hcomparison⟩ := h.comparison
  obtain ⟨buildFormat, hformat⟩ := h.format
  have hcode : codeField definition.toEntries = .ok definition.code := by
    rw [codeField]
    simp [toEntries, h.named]
  have hfamily : readFamily definition.family.code definition.code = .ok definition.family := by
    rw [readFamily, Family.ofWord?_code]
  have hpolicies : definition.checkPolicies = .ok definition := by
    rw [checkPolicies, hcomparison, hformat]
  rw [ofValue, hgiven]
  show (codeField definition.toEntries >>= _) = _
  rw [hcode]
  -- The text fields are read by looking their keys up, which takes them as they are.
  show (readFamily definition.family.code definition.code >>= _) = _
  rw [hfamily]
  exact hpolicies

/-- A valid definition is read from its mapping, however the keys of the mapping are spelled. -/
theorem Valid.ofValue_of_respelled (h : definition.Valid)
    (hvalue : Value.Respelled definition.toValue value) : ofValue value = .ok definition := by
  obtain ⟨others, rfl, hothers⟩ := hvalue.exists_object
  obtain ⟨known, hknown, hsame⟩ := knownEntries_respelled "scheme definition" keys hothers
    (by simp [toEntries]) (by simp [toEntries]) (by simp [toEntries, keys])
  apply h.ofValue_eq
  rw [hknown, eq_of_sameKey hsame]
  simp [toEntries]

end SchemeDefinition

namespace Settings

variable {settings : Settings} {value given inner : Value} {room : Nat}

theorem not_allBlank_of_readDefaultCode {code : String} (h : readDefaultCode value = .ok code) :
    Text.allBlank code.toList = false := by
  unfold readDefaultCode at h
  split at h
  · split at h
    · cases h
    next hblank =>
      cases h
      exact Bool.not_eq_true _ ▸ hblank
  · cases h

/-- Settings that are read name a default scheme. -/
theorem not_allBlank_of_ofValue (h : ofValue room value = .ok settings) :
    Text.allBlank settings.defaultCode.toList = false := by
  obtain rfl | ⟨entries, -, hcode, -⟩ := cases_of_ofValue h
  · decide
  · exact not_allBlank_of_readDefaultCode hcode

theorem mapM_ofValue_respelled {definitions : List SchemeDefinition} {items : List Value}
    (hvalid : ∀ definition ∈ definitions, definition.Valid)
    (h : List.Forall₂ Value.Respelled (definitions.map SchemeDefinition.toValue) items) :
    items.mapM SchemeDefinition.ofValue = .ok definitions := by
  induction definitions generalizing items with
  | nil =>
    cases h
    rfl
  | cons definition definitions ih =>
    cases h with
    | cons hitem hitems =>
      obtain ⟨hhere, hrest⟩ := List.forall_mem_cons.1 hvalid
      rw [List.mapM_cons, hhere.ofValue_of_respelled hitem, ih hrest hitems]
      rfl

/-- The mapping of settings has no table inside, however its keys are spelled. -/
theorem unwrap_respelled (h : Value.Respelled settings.toValue inner) : unwrap inner = .ok inner := by
  obtain ⟨others, rfl, hothers⟩ := h.exists_object
  have hkeys : (others.map fun other => (keySpelling other.1, other.2)).map Prod.fst =
      ["default_scheme", "log_level", "schemes"] :=
    map_fst_of_sameKey (sameKey_of_respelled hothers (by simp))
  have hnone : tableName ∉ others.map Prod.fst := by
    intro hmem
    obtain ⟨entry, hentry, hname⟩ := List.mem_map.1 hmem
    have hspelled : keySpelling tableName ∈ ["default_scheme", "log_level", "schemes"] := by
      rw [← hname, ← hkeys]
      exact List.mem_map.2 ⟨_, List.mem_map_of_mem hentry, rfl⟩
    exact absurd hspelled (by decide)
  have hlookup : (others.map fun other => (Atom.text other.1, other.2)).lookup
      (.text tableName) = none := by
    rw [List.lookup_eq_none_iff]
    intro entry hentry
    obtain ⟨other, hother, rfl⟩ := List.mem_map.1 hentry
    simpa [bne] using fun heq : tableName = other.1 => hnone (heq ▸ List.mem_map_of_mem hother)
  rw [Value.object, unwrap, hlookup]

/-- Whatever settings are wrapped in, they are read from their mapping, however its keys are
spelled. -/
theorem ofValue_of_unwrap (hvalid : settings.Valid)
    (hnamed : Text.allBlank settings.defaultCode.toList = false)
    (hinner : Value.Respelled settings.toValue inner) (hunwrap : unwrap given = .ok inner)
    (hfalsy : given.isFalsy = false) (room : Nat) : ofValue room given = .ok settings := by
  obtain ⟨others, rfl, hothers⟩ := hinner.exists_object
  obtain ⟨known, hknown, hsame⟩ := knownEntries_respelled "configuration" keys hothers
    (by simp) (by simp) (by simp [keys])
  obtain ⟨_, hcode, hcodeSame⟩ := exists_lookup_of_sameKey hsame "default_scheme" rfl
  obtain ⟨_, hword, hwordSame⟩ := exists_lookup_of_sameKey hsame "log_level" rfl
  obtain ⟨_, hschemes, hschemesSame⟩ := exists_lookup_of_sameKey hsame "schemes" rfl
  cases hcodeSame.eq_of_atom
  cases hwordSame.eq_of_atom
  obtain ⟨items, rfl, hitems⟩ := hschemesSame.exists_list
  have hdefinitions : readDefinitions known = .ok settings.definitions := by
    have hlist := mapM_ofValue_respelled hvalid.definitions hitems
    rw [readDefinitions, hschemes]
    cases items with
    | nil => exact hlist
    | cons item items => exact hlist
  have hreadCode : readDefaultCode (.text settings.defaultCode) = .ok settings.defaultCode := by
    simp [readDefaultCode, hnamed]
  have hreadWord : readLevelWord room (.text settings.levelWord) = .ok settings.levelWord := by
    simp [readLevelWord, hvalid.level]
  rw [ofValue_eq hfalsy]
  simp [hunwrap, hknown, hdefinitions, hcode, hword, hreadCode, hreadWord, bind, Except.bind, pure,
    Except.pure]

/-- Settings that are read are written as a mapping from which they are read again, however its keys
are spelled, and whether or not the mapping is nested under the table of the settings. As nothing in
it is shown, it takes no room. -/
theorem ofValue_respelled (hread : ofValue room value = .ok settings)
    (hgiven : Value.Respelled settings.toValue given) (room' : Nat) :
    ofValue room' given = .ok settings ∧
      ofValue room' (.object [(tableName, given)]) = .ok settings := by
  have hvalid := valid_ofValue hread
  have hnamed := not_allBlank_of_ofValue hread
  have hunwrap := unwrap_respelled hgiven
  obtain ⟨others, rfl, hothers⟩ := hgiven.exists_object
  constructor
  · refine ofValue_of_unwrap hvalid hnamed hgiven hunwrap ?_ room'
    cases hothers
    rfl
  · exact ofValue_of_unwrap hvalid hnamed hgiven rfl rfl room'

/-- Blanks around a code, and a policy in capitals, are kept. -/
theorem ofValue_respelled_ordered :
    let value : Value := .object [("schemes", .list
      [.object [("code", .text " Mine "), ("build-comparison", .text " TOKEN_COMPARE")]])]
    let settings : Settings :=
      { definitions := [{ code := " Mine ", comparisonWord := " TOKEN_COMPARE" }] }
    let given : Value := .object
      [("default-scheme", .text "maven-default"), ("log_level", .text "WARNING"),
        ("schemes", .list [.object
          [("code", .text " Mine "), ("comparator", .text "maven-like"),
            ("version-before_build", .boolean true), ("build-delimiter", .text ""),
            ("build_comparison", .text " TOKEN_COMPARE"), ("build_format", .text "omit"),
            ("mapped_build_prefix", .text "build"), ("qualifier_delimiter", .text "-"),
            ("qualifier_token_delimiter", .text ".")]])]
    ofValue 2 value = .ok settings ∧ Value.Respelled settings.toValue given ∧
      ofValue 0 given = .ok settings ∧ ofValue 0 (.object [(tableName, given)]) = .ok settings := by
  intro value settings given
  have hread : ofValue 2 value = .ok settings := by rfl
  have hgiven : Value.Respelled settings.toValue given := by
    refine .entry (by decide) (.refl _) (.entry (.refl _) (.refl _) (.entry (.refl _) ?_ (.refl _)))
    refine .item ?_ (.refl _)
    exact .entry (.refl _) (.refl _) (.entry (.refl _) (.refl _)
      (.entry (by decide) (.refl _) (.entry (by decide) (.refl _) (.refl _))))
  exact ⟨hread, hgiven, ofValue_respelled hread hgiven 0⟩

end Settings

end VersionOrder
