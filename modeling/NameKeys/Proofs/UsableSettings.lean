import NameKeys.Command.Outcome
import NameKeys.Proofs.AcceptedSettings
import NameKeys.Proofs.CreatedProfiles

/-!
# What can be relied on in accepted settings

Whatever values a table holds, settings that were read from it have options that select a profile,
a threshold and a layout that exist, sizes within their bounds and a log file with a path that is
not blank. So they are accepted again when they are written as a table. Only a path that was given
in bytes may be blank, and then it is lost in this way.
-/

namespace NameKeys.Proofs
open Profile (create)

section Usable

variable {config : Table} {s : Settings} {p : Profile}

/-! ### Profiles -/

/-- Whether settings can be used, with this profile. -/
structure IsUsable (s : Settings) (p : Profile) : Prop where
  options : ∀ o, o ∈ p.options ↔ o ∈ s.normalization.options
  forms : ¬ ContradictoryForms s.normalization.options
  folds : ¬ ContradictoryFolds s.normalization.options
  profile : s.normalization.profile = .ok p
  created : create (.list (s.normalization.options.map .option)) = .ok p
  resolved : ∀ overrides : Value, overrides.isSomething = false →
    s.normalization.resolve overrides = .ok p
  threshold : s.logging.threshold.name ∈ (["DEBUG", "INFO", "WARNING", "ERROR"] : List Text)
  layout : s.logging.layout.name ∈ (["simple", "detailed", "json"] : List Text)
  maxMegabytes : 1 ≤ s.logging.maxMegabytes
  backups : 0 ≤ s.logging.backups

lemma not_contradictory_of_profile (h : s.normalization.profile = .ok p) :
    ¬ Contradictory s.normalization.options := by
  intro hcontradictory
  obtain ⟨error, herror⟩ := select_of_contradictory hcontradictory
  have hselect : Profile.select s.normalization.options = .ok p := h
  rw [herror] at hselect
  cases hselect

lemma isUsable_of_isConsistent (h : IsConsistent s) : ∃ p, IsUsable s p := by
  obtain ⟨p, hprofile⟩ := h.profile
  have hnot := not_contradictory_of_profile hprofile
  have hselect : Profile.select s.normalization.options = .ok p := hprofile
  obtain ⟨p', hselect', hoptions⟩ := select_of_not_contradictory hnot
  obtain rfl : p' = p := Except.ok.inj (hselect'.symm.trans hselect)
  refine ⟨p', hoptions, (not_or.mp hnot).1, (not_or.mp hnot).2, hprofile, ?_, ?_, ?_, ?_,
    h.maxMegabytes, h.backups⟩
  · rw [create_list_of_options (map_optionOf?_option _), hselect]
    rfl
  · intro overrides hnothing
    rw [NormalizationSettings.resolve, hnothing, hprofile]
    rfl
  · cases s.logging.threshold <;> simp [LogThreshold.name]
  · cases s.logging.layout <;> simp [LogLayout.name]

/-! ### Paths of log files -/

lemma reads_file_of_settings (h : Check.settings config = .ok s) :
    Reads (setting? config "logging" "file") none Check.file s.logging.file := by
  obtain ⟨-, hlogging, -⟩ := settings_eq_ok_iff.mp h
  unfold setting?
  unfold Reads at hlogging
  split at hlogging
  · next hnone =>
    rw [hnone, hlogging]
    rfl
  · next value hvalue =>
    cases value with
    | table entries =>
      rw [hvalue]
      exact (logging_eq_ok_iff.mp hlogging).2.file
    | _ => cases hlogging

lemma file_of_text {t : Text} {file : Option Text} (h : Check.file (.text t) = .ok file) :
    file = if Text.isBlank t then none else some t :=
  (Except.ok.inj h).symm

lemma not_blank_of_reads {value? : Option Value} {file : Option Text}
    (h : Reads value? none Check.file file) (hbytes : ∀ bs, value? ≠ some (.bytes bs)) :
    ∀ path ∈ file, Text.isBlank path = false := by
  intro path hpath
  cases value? with
  | none =>
    rw [show file = none from h] at hpath
    cases hpath
  | some value =>
    have hfile : Check.file value = .ok (some path) := by
      rw [← Option.mem_def.mp hpath]
      exact h
    cases value with
    | text t =>
      have htext := file_of_text hfile
      split at htext
      · cases htext
      · next hblank =>
        rw [Option.some.inj htext]
        exact Bool.eq_false_iff.mpr hblank
    | option o =>
      obtain rfl := Option.some.inj (Except.ok.inj hfile)
      cases o <;> decide
    | form f =>
      obtain rfl := Option.some.inj (Except.ok.inj hfile)
      cases f <;> decide
    | fold f =>
      obtain rfl := Option.some.inj (Except.ok.inj hfile)
      cases f <;> decide
    | bytes bs => exact absurd rfl (hbytes bs)
    | _ => cases hfile

/-! ### Writing settings -/

lemma integerFrom_int {least n : Int} (h : least ≤ n) : Check.integerFrom least (.int n) = .ok n :=
  if_pos h

lemma logging_toTable {l : LoggingSettings} (hsize : 1 ≤ l.maxMegabytes) (hbackups : 0 ≤ l.backups)
    (hfile : ∀ path ∈ l.file, Text.isBlank path = false) : Check.logging l.toTable = .ok l := by
  obtain ⟨threshold, layout, file, maxMegabytes, backups⟩ := l
  refine logging_eq_ok_iff.mpr ⟨?_, ?_, ?_, ?_, ?_, ?_⟩
  · exact fun key hkey => hkey
  · cases threshold <;> rfl
  · cases layout <;> rfl
  · cases file with
    | none => rfl
    | some path => exact file_text (hfile path rfl)
  · exact integerFrom_int hsize
  · exact integerFrom_int hbackups

lemma normalization_toTable {n : NormalizationSettings} (hprofile : n.profile = .ok p) :
    Check.normalization n.toTable = .ok n := by
  have hoptions : Check.options (.list (n.options.map .option)) = .ok n.options := by
    simp only [Check.options, readNames_of_options (map_optionOf?_option n.options),
      optionItems_options]
  exact normalization_eq_ok_iff.mpr ⟨fun key hkey => hkey, hoptions, p, hprofile⟩

lemma settings_toTable (h : IsConsistent s)
    (hfile : ∀ path ∈ s.logging.file, Text.isBlank path = false) :
    Check.settings s.toTable = .ok s := by
  obtain ⟨p, hprofile⟩ := h.profile
  refine settings_eq_ok_iff.mpr ⟨fun key hkey => hkey, ?_, ?_⟩
  · exact logging_toTable h.maxMegabytes h.backups hfile
  · exact normalization_toTable hprofile

/-- Accepted settings can be used. A log file that is given as a text has this text for its path,
unless it is blank and stands for no file, and settings whose log file is not given in bytes are
accepted again, unchanged, when they are written as a table. -/
theorem accepted_settings_are_usable (h : Check.settings config = .ok s) :
    (∃ p, IsUsable s p) ∧
    (∀ t, setting? config "logging" "file" = some (.text t) →
      s.logging.file = if Text.isBlank t then none else some t) ∧
    ((∀ bs, setting? config "logging" "file" ≠ some (.bytes bs)) →
      Check.settings s.toTable = .ok s) := by
  have hconsistent := isConsistent_of_settings h
  have hfile := reads_file_of_settings h
  refine ⟨isUsable_of_isConsistent hconsistent, fun t ht => ?_, fun hbytes => ?_⟩
  · rw [ht] at hfile
    exact file_of_text hfile
  · exact settings_toTable hconsistent (not_blank_of_reads hfile hbytes)

/-- A table with a blank path, a size in a text and a set of spelled options. -/
def spelledEntries : Table :=
  [("logging", .table [("level", .text "debug"), ("file", .text " \t"),
      ("max_file_size_mb", .text "5")]),
    ("normalization", .table [("options", .set [.text " NFC", .text "case-fold-ascii"])])]

def spelledSettings : Settings where
  logging := ⟨.debug, .simple, none, 5, 5⟩
  normalization := ⟨[.nfc, .caseFoldAscii]⟩

theorem usable_settings_of_spelledEntries : (∃ p, IsUsable spelledSettings p) ∧
    (none : Option Text) = (if Text.isBlank " \t" then none else some " \t") ∧
    Check.settings spelledSettings.toTable = .ok spelledSettings := by
  have hvalid : Check.settings spelledEntries = .ok spelledSettings :=
    eq_ok_of_toOption (by decide +kernel)
  obtain ⟨husable, htext, hagain⟩ := accepted_settings_are_usable hvalid
  have hfile : setting? spelledEntries "logging" "file" = some (.text " \t") := rfl
  refine ⟨husable, htext " \t" hfile, hagain fun bs hbytes => ?_⟩
  rw [hfile] at hbytes
  cases hbytes

end Usable

end NameKeys.Proofs
