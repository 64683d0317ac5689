import NameKeys.Config.Check
import NameKeys.Proofs.MergedTables
import NameKeys.Proofs.SelectedProfiles

/-!
# Which settings are accepted

A table is accepted exactly if all its keys are known and every value is read as what its setting
needs. What a setting is not given is its default. Besides, accepted options select a profile.
-/

namespace NameKeys.Proofs
open Check

/-! ### One setting -/

/-- Whether the value of a setting is read as `a`, which is the default where there is no value. -/
def Reads {ε α : Type} (value? : Option Value) (default : α) (check : Value → Except ε α) (a : α) :
    Prop :=
  match value? with
  | none => a = default
  | some value => check value = .ok a

section Fields

variable {α : Type} {value? : Option Value} {default a : α} {entries : Table} {key : Text}

lemma field_eq_ok_iff {check : Value → Checked α} :
    field entries key default check = .ok a ↔ Reads (entries.get? key) default check a := by
  unfold field Reads
  cases entries.get? key with
  | none => exact ⟨fun h => (Except.ok.inj h).symm, fun h => congrArg _ h.symm⟩
  | some value => exact mapError_eq_ok_iff

lemma reads_single_iff {check : Value → Except Fault α} :
    Reads value? default (single check) a ↔ Reads value? default check a := by
  unfold Reads
  cases value? with
  | none => rfl
  | some value => exact mapError_eq_ok_iff

lemma unknownKeys_eq_nil_iff {known : List Text} :
    unknownKeys known entries = [] ↔ ∀ key ∈ entries.keys, key ∈ known := by
  simp [unknownKeys, List.filter_eq_nil_iff]

lemma file_text {path : Text} (hblank : Text.isBlank path = false) :
    Check.file (.text path) = .ok (some path) := by
  rw [Check.file, hblank]
  rfl

lemma readNames_of_options {items : List Value} {os : List NormalizationOption}
    (h : items.map optionOf? = os.map some) : Check.readNames items = .ok (os.map .option) := by
  induction items generalizing os with
  | nil =>
    obtain rfl := List.map_eq_nil_iff.mp h.symm
    rfl
  | cons item items ih =>
    cases os with
    | nil => cases h
    | cons o os =>
      obtain ⟨hitem, hrest⟩ := List.cons.inj h
      have hread := ih hrest
      cases item with
      | option other =>
        obtain rfl := Option.some.inj hitem
        rw [Check.readNames, hread]
        · rfl
        · intro name hname
          cases hname
      | text name =>
        have hparse : NormalizationOption.parse? name = some o := hitem
        simp only [Check.readNames, hparse, hread]
        rfl
      | _ => cases hitem

lemma optionItems_options (index : Nat) (options : List NormalizationOption) :
    Check.optionItems index (options.map .option) = .ok options := by
  induction options generalizing index with
  | nil => rfl
  | cons o rest ih =>
    rw [List.map_cons, Check.optionItems, ih]
    rfl

end Fields

/-! ### Sections -/

def loggingKeys : List Text := ["level", "format", "file", "max_file_size_mb", "backup_count"]

def normalizationKeys : List Text := ["options"]

def sectionNames : List Text := ["logging", "normalization"]

/-- Whether the values at some keys are read as logging settings. -/
structure LoggingReads (value? : Text → Option Value) (s : LoggingSettings) : Prop where
  threshold : Reads (value? "level") .warning Check.threshold s.threshold
  layout : Reads (value? "format") .simple Check.layout s.layout
  file : Reads (value? "file") none Check.file s.file
  maxMegabytes : Reads (value? "max_file_size_mb") 10 (integerFrom 1) s.maxMegabytes
  backups : Reads (value? "backup_count") 5 (integerFrom 0) s.backups

/-- Whether the values at some keys are read as normalization settings, with options that select a
profile. -/
structure NormalizationReads (value? : Text → Option Value) (s : NormalizationSettings) : Prop where
  options : Reads (value? "options") [] Check.options s.options
  profile : ∃ p, s.profile = .ok p

section Sections

variable {α : Type} {entries : Table}

lemma withUnicodeKeys_eq (known : List Text) {check : Table → Checked α}
    (hunicode : (known.any fun key => key.any CodePoint.isSurrogate) = false)
    (hknown : ∀ key ∈ entries.keys, key ∈ known) : withUnicodeKeys check entries = check entries := by
  have hkeys : (entries.keys.any fun key => key.any CodePoint.isSurrogate) = false := by
    rw [List.any_eq_false] at hunicode ⊢
    exact fun key hkey => hunicode key (hknown key hkey)
  rw [withUnicodeKeys, hkeys]
  rfl

lemma check_eq_ok_of_withUnicodeKeys {check : Table → Checked α} {a : α}
    (h : withUnicodeKeys check entries = .ok a) : check entries = .ok a := by
  unfold withUnicodeKeys at h
  split at h
  · cases h
  · exact h

lemma logging_eq_ok_iff {s : LoggingSettings} :
    Check.logging entries = .ok s ↔
      (∀ key ∈ entries.keys, key ∈ loggingKeys) ∧ LoggingReads (fun key => entries.get? key) s := by
  constructor
  · intro h
    have hcheck := check_eq_ok_of_withUnicodeKeys h
    dsimp only at hcheck
    split at hcheck
    · next hthreshold hlayout hfile hsize hbackups hunknown =>
      obtain rfl := Except.ok.inj hcheck
      exact ⟨unknownKeys_eq_nil_iff.mp hunknown, reads_single_iff.mp (field_eq_ok_iff.mp hthreshold),
        reads_single_iff.mp (field_eq_ok_iff.mp hlayout),
        reads_single_iff.mp (field_eq_ok_iff.mp hfile),
        reads_single_iff.mp (field_eq_ok_iff.mp hsize),
        reads_single_iff.mp (field_eq_ok_iff.mp hbackups)⟩
    · cases hcheck
  · rintro ⟨hknown, hreads⟩
    rw [Check.logging, withUnicodeKeys_eq loggingKeys rfl hknown]
    dsimp only
    rw [field_eq_ok_iff.mpr (reads_single_iff.mpr hreads.threshold),
      field_eq_ok_iff.mpr (reads_single_iff.mpr hreads.layout),
      field_eq_ok_iff.mpr (reads_single_iff.mpr hreads.file),
      field_eq_ok_iff.mpr (reads_single_iff.mpr hreads.maxMegabytes),
      field_eq_ok_iff.mpr (reads_single_iff.mpr hreads.backups)]
    have hunknown := unknownKeys_eq_nil_iff.mpr hknown
    unfold loggingKeys at hunknown
    rw [hunknown]

lemma normalization_eq_ok_iff {s : NormalizationSettings} :
    Check.normalization entries = .ok s ↔
      (∀ key ∈ entries.keys, key ∈ normalizationKeys) ∧
        NormalizationReads (fun key => entries.get? key) s := by
  constructor
  · intro h
    have hcheck := check_eq_ok_of_withUnicodeKeys h
    dsimp only at hcheck
    split at hcheck
    · next hoptions hunknown =>
      split at hcheck
      · next p hselect =>
        obtain rfl := Except.ok.inj hcheck
        exact ⟨unknownKeys_eq_nil_iff.mp hunknown, field_eq_ok_iff.mp hoptions, p, hselect⟩
      · cases hcheck
    · cases hcheck
  · rintro ⟨hknown, ⟨hoptions, p, hprofile⟩⟩
    rw [Check.normalization, withUnicodeKeys_eq normalizationKeys rfl hknown]
    dsimp only
    have hunknown := unknownKeys_eq_nil_iff.mpr hknown
    have hselect : Profile.select s.options = .ok p := hprofile
    unfold normalizationKeys at hunknown
    rw [field_eq_ok_iff.mpr hoptions, hunknown]
    simp only [hselect]

end Sections

/-! ### All settings -/

section Settings

variable {config : Table} {s : Settings}

lemma settings_eq_ok_iff :
    Check.settings config = .ok s ↔
      (∀ key ∈ config.keys, key ∈ sectionNames) ∧
      Reads (config.get? "logging") {} (sectionOf .logging Check.logging) s.logging ∧
      Reads (config.get? "normalization") {} (sectionOf .normalization Check.normalization)
        s.normalization := by
  constructor
  · intro h
    have hcheck := check_eq_ok_of_withUnicodeKeys h
    dsimp only at hcheck
    split at hcheck
    · next hlogging hnormalization hunknown =>
      obtain rfl := Except.ok.inj hcheck
      exact ⟨unknownKeys_eq_nil_iff.mp hunknown, field_eq_ok_iff.mp hlogging,
        field_eq_ok_iff.mp hnormalization⟩
    · cases hcheck
  · rintro ⟨hknown, hlogging, hnormalization⟩
    have hunknown := unknownKeys_eq_nil_iff.mpr hknown
    rw [Check.settings, withUnicodeKeys_eq sectionNames rfl hknown]
    dsimp only
    unfold sectionNames at hunknown
    rw [field_eq_ok_iff.mpr hlogging, field_eq_ok_iff.mpr hnormalization, hunknown]

lemma le_of_integerFrom {least n : Int} {value : Value} (h : integerFrom least value = .ok n) :
    least ≤ n := by
  unfold integerFrom at h
  cases hint : integer value with
  | error fault => simp [hint, bind, Except.bind] at h
  | ok m =>
    simp only [hint, bind, Except.bind] at h
    split at h
    · next hle => rwa [← Except.ok.inj h]
    · cases h

lemma le_of_reads {least default n : Int} {value? : Option Value} (hdefault : least ≤ default)
    (h : Reads value? default (integerFrom least) n) : least ≤ n := by
  unfold Reads at h
  cases value? with
  | none => rwa [h]
  | some value => exact le_of_integerFrom h

/-- What the settings of a table that is accepted have in common. -/
structure IsConsistent (s : Settings) : Prop where
  maxMegabytes : 1 ≤ s.logging.maxMegabytes
  backups : 0 ≤ s.logging.backups
  profile : ∃ p, s.normalization.profile = .ok p

lemma isConsistent_of_settings (h : Check.settings config = .ok s) : IsConsistent s := by
  obtain ⟨-, hlogging, hnormalization⟩ := settings_eq_ok_iff.mp h
  have hsizes : 1 ≤ s.logging.maxMegabytes ∧ 0 ≤ s.logging.backups := by
    unfold Reads at hlogging
    split at hlogging
    · rw [hlogging]
      decide
    · next value _ =>
      cases value with
      | table entries =>
        obtain ⟨-, hreads⟩ := logging_eq_ok_iff.mp hlogging
        exact ⟨le_of_reads (by decide) hreads.maxMegabytes, le_of_reads (by decide) hreads.backups⟩
      | _ => cases hlogging
  refine ⟨hsizes.1, hsizes.2, ?_⟩
  unfold Reads at hnormalization
  split at hnormalization
  · rw [hnormalization]
    exact ⟨.exact, rfl⟩
  · next value _ =>
    cases value with
    | table entries => exact (normalization_eq_ok_iff.mp hnormalization).2.profile
    | _ => cases hnormalization

end Settings

end NameKeys.Proofs
