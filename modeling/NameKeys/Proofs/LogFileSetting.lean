import NameKeys.Proofs.SettingsInVariables

/-!
# The path of a log file

Files can set any path that is not blank. A variable can set only a path that stands for itself: one
that names a truth value or denotes an integer is converted and then refused, because it is no text
any more.
-/

namespace NameKeys.Proofs
open Environment (address? scalar)

section LogFile

variable {h : Host} {path? : Option Text}

lemma overrideAll_ownVariables (isList : Text × Text → Bool) (environment : Environment)
    (config : Table) :
    Environment.overrideAll programName isList environment config =
      Environment.overrideAll programName isList (ownVariables environment) config := by
  unfold Environment.overrideAll
  induction environment generalizing config with
  | nil => rfl
  | cons named rest ih =>
    rw [ownVariables_cons]
    split
    · rw [List.foldlM_cons, List.foldlM_cons]
      exact bind_congr fun next => ih next
    · next hother =>
      have haddress : address? programName named.1 = none := by
        cases haddress : address? programName named.1 with
        | none => rfl
        | some address => exact absurd (isPrefixOf_of_address? haddress) hother
      rw [List.foldlM_cons, Environment.override, haddress]
      exact ih config

lemma settings_eq_error_of_logging {entries : Table} {violations : List Violation}
    (h : Check.logging entries = .error violations) :
    Check.settings [("logging", .table entries)] =
      .error (violations.map (·.within "logging")) := by
  have hsections : ∀ key ∈ Entries.keys [(("logging" : Text), Value.table entries)],
      key ∈ sectionNames := by
    intro key hkey
    rw [List.mem_singleton.mp hkey]
    exact List.mem_cons_self ..
  have hsection : Check.field [("logging", .table entries)] "logging" {}
      (Check.sectionOf .logging Check.logging) = .error (violations.map (·.within "logging")) := by
    rw [Check.field, get?_cons, if_pos rfl]
    simp only [Check.sectionOf, h]
    rfl
  have hunknown := unknownKeys_eq_nil_iff.mpr hsections
  unfold sectionNames at hunknown
  rw [Check.settings, withUnicodeKeys_eq sectionNames rfl hsections]
  dsimp only
  have hnames : Check.field [("logging", .table entries)] "normalization" {}
      (Check.sectionOf .normalization Check.normalization) = .ok {} := rfl
  rw [hsection, hnames, hunknown]
  simp [Checked.violations]

def fileTable (value : Value) : Table := [("logging", .table [("file", value)])]

def setsFile (path : Text) : Table → Bool
  | [(sectionName, .table [(key, .text t)])] => sectionName = "logging" ∧ key = "file" ∧ t = path
  | _ => false

lemma eq_fileTable_of_setsFile {path : Text} {config : Table} (h : setsFile path config = true) :
    config = fileTable (.text path) := by
  unfold setsFile at h
  split at h
  · obtain ⟨rfl, rfl, rfl⟩ := of_decide_eq_true h
    rfl
  · cases h

lemma settings_fileTable (value : Value) :
    Check.settings (fileTable value) =
      match Check.file value with
      | .ok file => .ok { logging := { file } }
      | .error fault => .error [⟨[.key "logging", .key "file"], fault⟩] := by
  have hkeys : ∀ key ∈ Entries.keys [(("file" : Text), value)], key ∈ loggingKeys := by
    intro key hkey
    rw [List.mem_singleton.mp hkey]
    simp [loggingKeys]
  cases hfile : Check.file value with
  | ok file =>
    refine settings_eq_ok_iff.mpr ⟨fun key hkey => ?_, ?_, rfl⟩
    · rw [List.mem_singleton.mp hkey]
      exact List.mem_cons_self ..
    · exact logging_eq_ok_iff.mpr ⟨hkeys, rfl, rfl, hfile, rfl, rfl⟩
  | error fault =>
    have hfield : Check.field [("file", value)] "file" none (Check.single Check.file) =
        .error [⟨[.key "file"], fault⟩] := by
      rw [Check.field, get?_cons, if_pos rfl]
      simp only [Check.single, hfile]
      rfl
    have hlogging : Check.logging [("file", value)] = .error [⟨[.key "file"], fault⟩] := by
      have hunknown := unknownKeys_eq_nil_iff.mpr hkeys
      unfold loggingKeys at hunknown
      rw [Check.logging, withUnicodeKeys_eq loggingKeys rfl hkeys]
      dsimp only
      rw [hfield, hunknown]
      rfl
    exact settings_eq_error_of_logging hlogging

lemma file_scalar_of_not {t : Text} (h : ¬ StandsForItself t) :
    Check.file (scalar t) = .error .notAString := by
  rw [scalar_eq]
  cases htruth : truthOf? t with
  | some b => rfl
  | none =>
    cases hint : Text.toInt? t with
    | some n => rfl
    | none => exact absurd ⟨htruth, hint⟩ h

lemma load_file_variable {path : Text} (hblank : Text.isBlank path = false)
    (hstray : stray? h programName path? = none)
    (hfiles : ∀ place ∈ consultedPaths h programName path?, textAt? h place = none)
    (henvironment : ownVariables h.environment = [(variableName ("logging", "file"), path)]) :
    h.load programName .settings path? =
      if StandsForItself path then .ok { logging := { file := some path } }
      else .error (.invalid .settings [⟨[.key "logging", .key "file"], .notAString⟩]) := by
  obtain ⟨config, hmerged, rfl⟩ :
      ∃ config, Source.merged (h.sources programName path?) = .ok config ∧ config = [] := by
    refine merged_of_files (P := fun table => table = []) rfl ?_ hstray
      fun place hplace text htext => ?_
    · rintro _ _ rfl rfl
      rfl
    · rw [hfiles place hplace] at htext
      cases htext
  have haddress := address?_variableName _
    (List.mem_of_getElem? (l := settingAddresses) (i := 2) rfl)
  have hafter : Environment.overrideAll programName (· ∈ Schema.settings.listFields) h.environment
      [] = .ok (fileTable (scalar path)) := by
    rw [overrideAll_ownVariables, henvironment, Environment.overrideAll, List.foldlM_cons,
      Environment.override, haddress]
    rfl
  rw [load_settings_eq hmerged hafter, settings_fileTable]
  by_cases hstands : StandsForItself path
  · rw [if_pos hstands, scalar_eq_text hstands.1 hstands.2, file_text hblank]
    rfl
  · rw [if_neg hstands, file_scalar_of_not hstands]
    rfl

lemma load_file_setting {path : Text} (hblank : Text.isBlank path = false)
    (hfiles : ∃ config, Source.merged (h.sources programName path?) = .ok config ∧
      setsFile path config = true)
    (henvironment : ownVariables h.environment = []) :
    h.load programName .settings path? = .ok { logging := { file := some path } } := by
  obtain ⟨config, hmerged, hconfig⟩ := hfiles
  obtain rfl := eq_fileTable_of_setsFile hconfig
  have hafter : Environment.overrideAll programName (· ∈ Schema.settings.listFields) h.environment
      (fileTable (.text path)) = .ok (fileTable (.text path)) := by
    rw [overrideAll_ownVariables, henvironment]
    rfl
  rw [load_settings_eq hmerged hafter, settings_fileTable, file_text hblank]
  rfl

/-- A path of a log file that is set in files is taken as it is. In a variable it is so exactly if it
stands for itself, and otherwise the settings are refused, unless the search for files goes astray.
-/
theorem file_from_variable_or_files (h : Host) (path? : Option Text) {path : Text}
    (hblank : Text.isBlank path = false) :
    ((∀ place ∈ consultedPaths h programName path?, textAt? h place = none) →
      ownVariables h.environment = [(variableName ("logging", "file"), path)] →
      (stray? h programName path? = none → h.load programName .settings path? =
        if StandsForItself path then .ok { logging := { file := some path } }
        else .error (.invalid .settings [⟨[.key "logging", .key "file"], .notAString⟩])) ∧
      ∀ error, stray? h programName path? = some error →
        h.load programName .settings path? = .error (.astray error)) ∧
    ((∃ config, Source.merged (h.sources programName path?) = .ok config ∧
        setsFile path config = true) →
      ownVariables h.environment = [] →
      h.load programName .settings path? = .ok { logging := { file := some path } }) := by
  refine ⟨fun hfiles henvironment => ⟨fun hstray => ?_, fun error hstray => ?_⟩,
    load_file_setting hblank⟩
  · exact load_file_variable hblank hstray hfiles henvironment
  · refine load_of_stray .settings (fun place hplace text htext => ?_) hstray
    rw [hfiles place hplace] at htext
    cases htext

/-- A host without files and with a path of a log file in a variable. -/
def fileVariableHost (path : Text) : Host where
  files := []
  environment := [("HOME", "/home/user"), (variableName ("logging", "file"), path)]
  directory := "/work"
  hasProgramData := false

/-- A host with the path of a log file in the settings of the user. -/
def fileSettingHost : Host where
  files := [("/home/user/.config/memfs-pathnorm/config.toml", "[logging]\nfile = \"No\"")]
  environment := [("HOME", "/home/user")]
  directory := "/work"
  hasProgramData := false

theorem file_named_no :
    (fileVariableHost "No.log").load programName .settings none =
      .ok { logging := { file := some "No.log" } } ∧
    (fileVariableHost "No").load programName .settings none =
      .error (.invalid .settings [⟨[.key "logging", .key "file"], .notAString⟩]) ∧
    fileSettingHost.load programName .settings none = .ok { logging := { file := some "No" } } := by
  have hlogBlank : Text.isBlank "No.log" = false := by decide +kernel
  have hnoBlank : Text.isBlank "No" = false := by decide +kernel
  have hlog := file_from_variable_or_files (fileVariableHost "No.log") none hlogBlank
  have hno := file_from_variable_or_files (fileVariableHost "No") none hnoBlank
  have hsetting := file_from_variable_or_files fileSettingHost none hnoBlank
  refine ⟨?_, ?_, ?_⟩
  · rw [(hlog.1 (fun _ _ => rfl) rfl).1 (by decide +kernel)]
    exact if_pos (by decide +kernel)
  · rw [(hno.1 (fun _ _ => rfl) rfl).1 (by decide +kernel)]
    exact if_neg (by decide +kernel)
  · exact hsetting.2 (by decide +kernel) (by decide +kernel)

/-- An integer is refused as a path in a variable. -/
theorem file_named_1_refused :
    ¬ ∃ s : Settings, (fileVariableHost "1").load programName .settings none = .ok s := by
  rintro ⟨s, hload⟩
  have hblank : Text.isBlank "1" = false := by decide +kernel
  rw [load_file_variable hblank (by decide +kernel) (fun _ _ => rfl) rfl, if_neg (by decide +kernel)] at hload
  cases hload

end LogFile

end NameKeys.Proofs
