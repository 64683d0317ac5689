import NameKeys.Proofs.SchematicTables
import NameKeys.Proofs.VariableTexts

/-!
# Settings in variables

All settings can be written as variables of the environment, each as a text, and loading them gives
the settings back, whatever the files set at known keys. This needs a path of a log file that stands
for itself, and integers that can be written.
-/

namespace NameKeys.Proofs
open Environment (address? convert scalar items)

/-! ### Variables of the program -/

def variablePrefix : Text := "MEMFS_PATHNORM_"

/-- The name of the variable for the setting with a section and a key. -/
def variableName (address : Text × Text) : Text :=
  variablePrefix ++ Text.upper address.1 ++ "_" ++ Text.upper address.2

def ownVariables (environment : Environment) : Environment :=
  environment.filter fun named => variablePrefix.isPrefixOf named.1

lemma ownVariables_cons (named : Text × Text) (rest : Environment) :
    ownVariables (named :: rest) =
      if variablePrefix.isPrefixOf named.1 then named :: ownVariables rest else ownVariables rest :=
  List.filter_cons

/-- All settings with their sections, their keys and their texts: integers in decimal, options with
commas between their names, and no log file as an empty text. -/
def settingTexts (s : Settings) : List ((Text × Text) × Text) :=
  [(("logging", "level"), s.logging.threshold.name),
    (("logging", "format"), s.logging.layout.name),
    (("logging", "file"), s.logging.file.getD []),
    (("logging", "max_file_size_mb"), Text.ofInt s.logging.maxMegabytes),
    (("logging", "backup_count"), Text.ofInt s.logging.backups),
    (("normalization", "options"), Text.join "," (s.normalization.options.map (·.name)))]

def variablesOf (s : Settings) : Environment :=
  (settingTexts s).map fun (address, t) => (variableName address, t)

/-- Whether a text stands for itself as a variable: it names no truth value and denotes no integer. -/
def StandsForItself (t : Text) : Prop := truthOf? t = none ∧ Text.toInt? t = none

instance (t : Text) : Decidable (StandsForItself t) := inferInstanceAs (Decidable (_ ∧ _))

def settingAddresses : List (Text × Text) := (settingTexts {}).map (·.1)

lemma map_fst_settingTexts (s : Settings) : (settingTexts s).map (·.1) = settingAddresses := rfl

lemma mem_settingAddresses {s : Settings} {entry : (Text × Text) × Text}
    (h : entry ∈ settingTexts s) : entry.1 ∈ settingAddresses := by
  rw [← map_fst_settingTexts s]
  exact List.mem_map_of_mem h

lemma address?_variableName : ∀ address ∈ settingAddresses,
    address? programName (variableName address) = some address := by
  decide +kernel

lemma isKnown_of_mem_settingAddresses : ∀ address ∈ settingAddresses, IsKnown address := by
  decide +kernel

lemma nodup_settingAddresses : settingAddresses.Nodup := by
  decide +kernel

lemma prefixOf_programName : Environment.prefixOf programName = variablePrefix := by
  decide +kernel

lemma isPrefixOf_of_address? {name : Text} {address : Text × Text}
    (h : address? programName name = some address) : variablePrefix.isPrefixOf name = true := by
  obtain ⟨rest, rfl, -⟩ := address?_eq_some_iff.mp h
  rw [prefixOf_programName, List.isPrefixOf_iff_prefix]
  exact List.prefix_append variablePrefix rest

/-! ### What the variables have -/

section Variables

variable {s : Settings} {environment : Environment}

lemma findSome?_eq_some_of_forall {α β : Type} {l : List α} {f : α → Option β} {b : β}
    (hexists : ∃ a ∈ l, f a = some b) (hall : ∀ a ∈ l, ∀ c, f a = some c → c = b) :
    l.findSome? f = some b := by
  cases hfound : l.findSome? f with
  | none =>
    obtain ⟨a, ha, hsome⟩ := hexists
    rw [List.findSome?_eq_none_iff.mp hfound a ha] at hsome
    cases hsome
  | some c =>
    obtain ⟨a, ha, hsome⟩ := List.exists_of_findSome?_eq_some hfound
    rw [hall a ha c hsome]

lemma mem_settingTexts_of_address? (henvironment : (ownVariables environment).Perm (variablesOf s))
    {named : Text × Text} (hmem : named ∈ environment) {address : Text × Text}
    (haddress : address? programName named.1 = some address) :
    (address, named.2) ∈ settingTexts s := by
  have hown := henvironment.mem_iff.mp (List.mem_filter.mpr ⟨hmem, isPrefixOf_of_address? haddress⟩)
  obtain ⟨⟨other, t⟩, hother, rfl⟩ := List.mem_map.mp hown
  have hsame := address?_variableName other (mem_settingAddresses hother)
  obtain rfl := Option.some.inj (hsame.symm.trans haddress)
  exact hother

lemma environmentSetting?_of_perm (henvironment : (ownVariables environment).Perm (variablesOf s))
    {sectionName key t : Text} (hmem : ((sectionName, key), t) ∈ settingTexts s) :
    environmentSetting? programName .settings sectionName key environment =
      some (convert (Schema.settings.listFields.contains (sectionName, key)) t) := by
  have haddress := address?_variableName _ (mem_settingAddresses hmem)
  refine findSome?_eq_some_of_forall ⟨(variableName (sectionName, key), t), ?_, ?_⟩ ?_
  · have hown : (variableName (sectionName, key), t) ∈ ownVariables environment :=
      henvironment.mem_iff.mpr (List.mem_map.mpr ⟨_, hmem, rfl⟩)
    exact List.mem_reverse.mpr (List.mem_filter.mp hown).1
  · rw [variableSetting?, if_pos haddress]
  · intro named hnamed value hvalue
    rw [variableSetting?] at hvalue
    split at hvalue
    · next hsame =>
      have hother := mem_settingTexts_of_address? henvironment (List.mem_reverse.mp hnamed) hsame
      have hnodup : ((settingTexts s).map (·.1)).Nodup := nodup_settingAddresses
      have hentry := List.inj_on_of_nodup_map hnodup hother hmem rfl
      rw [← Option.some.inj hvalue, (Prod.mk.inj hentry).2]
    · cases hvalue

end Variables

/-! ### Reading the texts -/

lemma convert_ne_table (asList : Bool) (t : Text) (entries : Table) :
    convert asList t ≠ .table entries := by
  unfold convert scalar
  split
  · nofun
  · split
    · nofun
    · split
      · nofun
      · split <;> nofun

lemma threshold_scalar_name (t : LogThreshold) : Check.threshold (scalar t.name) = .ok t := by
  cases t <;> rfl

lemma layout_scalar_name (l : LogLayout) : Check.layout (scalar l.name) = .ok l := by
  cases l <;> rfl

lemma file_scalar {file : Option Text}
    (h : ∀ path ∈ file, Text.isBlank path = false ∧ StandsForItself path) :
    Check.file (scalar (file.getD [])) = .ok file := by
  cases file with
  | none => rfl
  | some path =>
    obtain ⟨hblank, htruth, hint⟩ := h path rfl
    rw [Option.getD_some, scalar_eq_text htruth hint]
    exact file_text hblank

lemma integerFrom_scalar {least n : Int} (hleast : least ≤ n) (hdigits : hasDecimalText n = true) :
    Check.integerFrom least (scalar (Text.ofInt n)) = .ok n := by
  rw [scalar_ofInt hdigits]
  exact if_pos hleast

lemma option_name (o : NormalizationOption) : CodePoint.ofChar ',' ∉ o.name ∧
    Text.strip o.name = o.name ∧ o.name.isEmpty = false ∧
    NormalizationOption.parse? o.name = some o := by
  cases o <;> decide +kernel

lemma items_names (options : List NormalizationOption) :
    items (Text.join "," (options.map (·.name))) = options.map (·.name) := by
  have hcomma : ∀ name ∈ options.map (·.name), CodePoint.ofChar ',' ∉ name := fun name hname => by
    obtain ⟨o, -, rfl⟩ := List.mem_map.mp hname
    exact (option_name o).1
  have hstrip : (options.map (·.name)).map Text.strip = options.map (·.name) := by
    rw [List.map_map]
    exact List.map_congr_left fun o _ => (option_name o).2.1
  rw [items_join hcomma, hstrip, List.filter_eq_self]
  intro name hname
  obtain ⟨o, -, rfl⟩ := List.mem_map.mp hname
  rw [(option_name o).2.2.1]
  rfl

lemma options_convert_names (options : List NormalizationOption) :
    Check.options (convert true (Text.join "," (options.map (·.name)))) = .ok options := by
  have hitems : convert true (Text.join "," (options.map (·.name))) =
      .list ((options.map (·.name)).map .text) := by
    rw [convert, if_pos rfl, items_names]
    rfl
  have hnames : ((options.map (·.name)).map Value.text).map optionOf? = options.map some := by
    rw [List.map_map, List.map_map]
    exact List.map_congr_left fun o _ => (option_name o).2.2.2
  rw [hitems]
  simp only [Check.options, readNames_of_options hnames, optionItems_options]

/-! ### Loading -/

section Loading

variable {h : Host} {path? : Option Text} {s : Settings}

lemma load_of_variables {entries : Table}
    (hvalid : Check.settings entries = .ok s)
    (hsize : hasDecimalText s.logging.maxMegabytes = true)
    (hbackups : hasDecimalText s.logging.backups = true)
    (hfile : ∀ path ∈ s.logging.file, Text.isBlank path = false ∧ StandsForItself path)
    (hfiles : ∀ path ∈ consultedPaths h programName path?, ∀ text ∈ textAt? h path,
      ∃ table, Toml.parse text = .ok table ∧ IsSchematic table)
    (henvironment : (ownVariables h.environment).Perm (variablesOf s))
    (hstray : stray? h programName path? = none) : h.load programName .settings path? = .ok s := by
  have hconsistent := isConsistent_of_settings hvalid
  obtain ⟨config, hmerged, hconfig⟩ :=
    merged_of_files .nil (fun _ _ hbase hover => hbase.merge hover) hstray hfiles
  obtain ⟨after, hafter, -, hsettled⟩ :=
    overrideAll_ok hconfig.holdsSections programName .settings h.environment
  have hschematic : IsSchematic after := by
    refine hconfig.overrideAll (fun named hnamed address haddress => ?_) hafter
    have hmem := mem_settingTexts_of_address? henvironment hnamed haddress
    exact isKnown_of_mem_settingAddresses address (mem_settingAddresses hmem)
  have hstands : ∀ sectionName key t, ((sectionName, key), t) ∈ settingTexts s →
      setting? after sectionName key =
        some (convert (Schema.settings.listFields.contains (sectionName, key)) t) := by
    intro sectionName key t hmem
    have hvariable := hsettled sectionName key (setting? config sectionName key) fun _ => rfl
    rw [environmentSetting?_of_perm henvironment hmem] at hvariable
    refine hvariable fun table htable => ?_
    exact convert_ne_table _ _ table (Option.some.inj htable)
  have hcheck : Check.settings after = .ok s := by
    refine settings_eq_ok_of_isSchematic hschematic ⟨?_, ?_, ?_, ?_, ?_⟩ ⟨?_, hconsistent.profile⟩
    · rw [hstands _ _ _ (List.mem_of_getElem? (i := 0) rfl)]
      exact threshold_scalar_name _
    · rw [hstands _ _ _ (List.mem_of_getElem? (i := 1) rfl)]
      exact layout_scalar_name _
    · rw [hstands _ _ _ (List.mem_of_getElem? (i := 2) rfl)]
      exact file_scalar hfile
    · rw [hstands _ _ _ (List.mem_of_getElem? (i := 3) rfl)]
      exact integerFrom_scalar hconsistent.maxMegabytes hsize
    · rw [hstands _ _ _ (List.mem_of_getElem? (i := 4) rfl)]
      exact integerFrom_scalar hconsistent.backups hbackups
    · rw [hstands _ _ _ (List.mem_of_getElem? (i := 5) rfl)]
      exact options_convert_names _
  rw [load_settings_eq hmerged hafter, hcheck]
  rfl

/-- Settings that are all given, with a comma in the path of the log file and an option twice. -/
def givenSettings : Settings where
  logging := ⟨.error, .json, some "a,b.log", 12, 0⟩
  normalization := ⟨[.nfd, .caseFoldAscii, .nfd]⟩

def givenEntries : Table :=
  [("normalization", .table [("options", .text "NFD, case-fold-ascii,nfd")]),
    ("logging", .table [("level", .text "error"), ("format", .text "JSON"),
      ("file", .text "a,b.log"), ("max_file_size_mb", .int 12), ("backup_count", .bool false)])]

/-- A host with a file of settings that would be refused, and with the settings in variables. -/
def variableHost : Host where
  files := [
    ("/etc/memfs-pathnorm/config.toml", "[logging]\nlevel = 3\n[normalization]\noptions = \"x\"")]
  environment := ("HOME", "/home/user") :: (variablesOf givenSettings).reverse
  directory := "/work"
  hasProgramData := false

def homelessVariableHost : Host :=
  { variableHost with environment := ("HOME", "~") :: (variablesOf givenSettings).reverse }

end Loading

end NameKeys.Proofs
