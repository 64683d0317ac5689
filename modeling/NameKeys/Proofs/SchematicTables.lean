import NameKeys.Proofs.AcceptedSettings
import NameKeys.Proofs.SettingPriority

/-!
# Tables of known settings

A table with no other sections and keys than the settings have stays such a table under merging and
under variables for known settings, whatever values stand in it. Of such a table the check reads the
settings one by one.
-/

namespace NameKeys.Proofs

def knownKeys (sectionName : Text) : List Text :=
  if sectionName = "logging" then loggingKeys
  else if sectionName = "normalization" then normalizationKeys
  else []

/-- Whether a table holds nothing but sections of known keys, whatever stands at these keys. -/
def IsSchematic (config : Table) : Prop :=
  ∀ e ∈ config, e.1 ∈ sectionNames ∧
    ∃ entries, e.2 = .table entries ∧ ∀ key ∈ Entries.keys entries, key ∈ knownKeys e.1

instance (value : Value) (known : List Text) :
    Decidable (∃ entries, value = .table entries ∧ ∀ key ∈ Entries.keys entries, key ∈ known) :=
  match value with
  | .table entries => decidable_of_iff (∀ key ∈ Entries.keys entries, key ∈ known)
    ⟨fun h => ⟨entries, rfl, h⟩, fun ⟨_, heq, h⟩ => Value.table.inj heq ▸ h⟩
  | .null | .bool _ | .int _ | .float _ | .text _ | .bytes _ | .list _ | .tuple _ | .set _
  | .generator _ | .option _ | .form _ | .fold _ | .moment _ => .isFalse nofun

instance (config : Table) : Decidable (IsSchematic config) :=
  inferInstanceAs (Decidable (∀ e ∈ config, _ ∧ _))

section Tables

variable {config base override entries : Table} {sectionName key : Text}

lemma IsSchematic.nil : IsSchematic [] := fun _ hmem => absurd hmem List.not_mem_nil

lemma IsSchematic.holdsSections (h : IsSchematic config) : HoldsSections config := fun e he => by
  obtain ⟨-, entries, heq, -⟩ := h e he
  exact ⟨entries, heq⟩

lemma IsSchematic.get? (h : IsSchematic config) {value : Value}
    (hget : config.get? sectionName = some value) :
    ∃ entries, value = .table entries ∧ ∀ key ∈ Entries.keys entries, key ∈ knownKeys sectionName :=
  (h _ (mem_of_get? hget)).2

lemma IsSchematic.keys (h : IsSchematic config) : ∀ key ∈ config.keys, key ∈ sectionNames := by
  intro key hkey
  obtain ⟨e, he, rfl⟩ := List.mem_map.mp hkey
  exact (h e he).1

lemma IsSchematic.put (h : IsSchematic config) (hname : sectionName ∈ sectionNames)
    (hkeys : ∀ key ∈ entries.keys, key ∈ knownKeys sectionName) :
    IsSchematic (config.put sectionName (.table entries)) := by
  intro e he
  rcases mem_put he with rfl | he
  · exact ⟨hname, entries, rfl, hkeys⟩
  · exact h e he

/-! ### Merging -/

lemma mem_keys_put {item : Value} {other : Text} (h : other ∈ (entries.put key item).keys) :
    other = key ∨ other ∈ entries.keys := by
  obtain ⟨e, he, rfl⟩ := List.mem_map.mp h
  rcases mem_put he with rfl | he
  · exact .inl rfl
  · exact .inr (List.mem_map_of_mem he)

lemma mem_keys_mergeOver (h : key ∈ (Table.mergeOver override base).keys) :
    key ∈ override.keys ∨ key ∈ base.keys := by
  induction override generalizing base with
  | nil => exact .inr h
  | cons entry rest ih =>
    obtain ⟨name, value⟩ := entry
    rw [table_mergeOver_cons] at h
    rcases ih h with h | h
    · exact .inl (List.mem_cons_of_mem _ h)
    · rcases mem_keys_put h with rfl | h
      · exact .inl (List.mem_cons_self ..)
      · exact .inr h

lemma IsSchematic.merge (hbase : IsSchematic base) (h : IsSchematic override) :
    IsSchematic (Table.merge base override) := by
  unfold Table.merge
  induction override generalizing base with
  | nil => exact hbase
  | cons entry rest ih =>
    obtain ⟨name, value⟩ := entry
    obtain ⟨hname, entries, hentries, hkeys⟩ := h _ (List.mem_cons_self ..)
    obtain rfl : value = .table entries := hentries
    have hrest : IsSchematic rest := fun e he => h e (List.mem_cons_of_mem _ he)
    rw [table_mergeOver_cons]
    cases hlower : base.get? name with
    | none =>
      rw [mergeOver_none]
      exact ih (hbase.put hname hkeys) hrest
    | some value =>
      obtain ⟨lower, rfl, hlowerKeys⟩ := hbase.get? hlower
      have hmerged : ∀ key ∈ (Table.mergeOver entries lower).keys, key ∈ knownKeys name := by
        intro key hkey
        rcases mem_keys_mergeOver hkey with hkey | hkey
        · exact hkeys key hkey
        · exact hlowerKeys key hkey
      exact ih (hbase.put hname hmerged) hrest

/-! ### Variables -/

/-- Whether a section and a key are those of a setting. -/
def IsKnown (address : Text × Text) : Prop :=
  address.1 ∈ sectionNames ∧ address.2 ∈ knownKeys address.1

instance (address : Text × Text) : Decidable (IsKnown address) := inferInstanceAs (Decidable (_ ∧ _))

lemma IsSchematic.assign (h : IsSchematic config) (hknown : IsKnown (sectionName, key))
    {value : Value} {after : Table}
    (hassign : Environment.assign sectionName key value config = .ok after) : IsSchematic after := by
  unfold Environment.assign at hassign
  split at hassign
  · obtain rfl := Except.ok.inj hassign
    refine h.put hknown.1 fun other hother => ?_
    obtain rfl := List.mem_singleton.mp hother
    exact hknown.2
  · next entries hget =>
    obtain rfl := Except.ok.inj hassign
    obtain ⟨_, heq, hkeys⟩ := h.get? hget
    obtain rfl := Value.table.inj heq
    refine h.put hknown.1 fun other hother => ?_
    rcases mem_keys_put hother with rfl | hother
    · exact hknown.2
    · exact hkeys other hother
  · cases hassign

lemma IsSchematic.overrideAll (h : IsSchematic config) {program : Text}
    {isList : Text × Text → Bool} {environment : Environment}
    (hknown : ∀ named ∈ environment, ∀ address ∈ Environment.address? program named.1,
      IsKnown address) {after : Table}
    (hafter : Environment.overrideAll program isList environment config = .ok after) :
    IsSchematic after := by
  unfold Environment.overrideAll at hafter
  induction environment generalizing config with
  | nil =>
    obtain rfl := Except.ok.inj hafter
    exact h
  | cons named rest ih =>
    rw [List.foldlM_cons] at hafter
    cases hnext : Environment.override program isList config named with
    | error fault =>
      rw [hnext] at hafter
      cases hafter
    | ok next =>
      rw [hnext] at hafter
      refine ih ?_ (fun other hother => hknown other (List.mem_cons_of_mem _ hother)) hafter
      unfold Environment.override at hnext
      split at hnext
      · obtain rfl := Except.ok.inj hnext
        exact h
      · next sectionName key haddress =>
        exact h.assign (hknown named (List.mem_cons_self ..) _ haddress) hnext

end Tables

/-! ### Files -/

lemma merged_of_files {P : Table → Prop} (hempty : P [])
    (hmerge : ∀ base override, P base → P override → P (Table.merge base override))
    {h : Host} {program : Text} {path? : Option Text} (hstray : stray? h program path? = none)
    (hvalid : ∀ path ∈ consultedPaths h program path?, ∀ text ∈ textAt? h path,
      ∃ table, Toml.parse text = .ok table ∧ P table) :
    ∃ config, Source.merged (h.sources program path?) = .ok config ∧ P config := by
  have htable : ∀ finding ∈ findings h program path?, ∃ table, finding.table = .ok table ∧ P table := by
    intro finding hmem
    have hanswer := strayAt?_of_mem hstray finding hmem
    cases finding with
    | nothing => exact ⟨[], rfl, hempty⟩
    | astray error => cases hanswer
    | text text =>
      obtain ⟨path, hpath, htext⟩ := exists_consulted hmem rfl
      obtain ⟨table, hparse, htable⟩ := hvalid path hpath text htext
      exact ⟨table, by rw [Finding.table, hparse]; rfl, htable⟩
  obtain ⟨tables, htables, hall⟩ : ∃ tables,
      (findings h program path?).mapM Finding.table = .ok tables ∧ ∀ table ∈ tables, P table := by
    generalize findings h program path? = found at htable
    induction found with
    | nil => exact ⟨[], rfl, fun _ hmem => absurd hmem List.not_mem_nil⟩
    | cons finding rest ih =>
      obtain ⟨⟨table, hfirst, hP⟩, hothers⟩ := List.forall_mem_cons.mp htable
      obtain ⟨tables, htables, hall⟩ := ih hothers
      refine ⟨table :: tables, ?_, List.forall_mem_cons.mpr ⟨hP, hall⟩⟩
      rw [List.mapM_cons, hfirst, htables]
      rfl
  have hfold : ∀ base, P base → P (tables.foldl Table.merge base) := by
    clear htables
    induction tables with
    | nil => exact fun base hbase => hbase
    | cons table rest ih =>
      obtain ⟨htable, hrest⟩ := List.forall_mem_cons.mp hall
      exact fun base hbase => ih hrest _ (hmerge base table hbase htable)
  refine ⟨tables.foldl Table.merge [], ?_, hfold [] hempty⟩
  rw [merged_eq, htables]
  rfl

/-! ### Checking -/

section Checking

variable {config : Table} {s : Settings}

lemma LoggingReads.eq_default {logging : LoggingSettings}
    (h : LoggingReads (fun _ => none) logging) : logging = {} := by
  obtain ⟨threshold, layout, file, maxMegabytes, backups⟩ := logging
  obtain ⟨hthreshold, hlayout, hfile, hsize, hbackups⟩ := h
  cases hthreshold
  cases hlayout
  cases hfile
  cases hsize
  cases hbackups
  rfl

lemma NormalizationReads.eq_default {normalization : NormalizationSettings}
    (h : NormalizationReads (fun _ => none) normalization) : normalization = {} := by
  obtain ⟨options⟩ := normalization
  obtain ⟨hoptions, -⟩ := h
  cases hoptions
  rfl

lemma settings_eq_ok_of_isSchematic (h : IsSchematic config)
    (hlogging : LoggingReads (setting? config "logging") s.logging)
    (hnormalization : NormalizationReads (setting? config "normalization") s.normalization) :
    Check.settings config = .ok s := by
  refine settings_eq_ok_iff.mpr ⟨h.keys, ?_, ?_⟩
  · unfold Reads
    cases hget : config.get? "logging" with
    | none =>
      have hnone : setting? config "logging" = fun _ => none :=
        funext fun key => setting?_of_get?_eq_none hget
      rw [hnone] at hlogging
      exact hlogging.eq_default
    | some value =>
      obtain ⟨entries, rfl, hkeys⟩ := h.get? hget
      have hentries : setting? config "logging" = fun key => Entries.get? key entries :=
        funext fun key => setting?_of_get? hget
      rw [hentries] at hlogging
      exact logging_eq_ok_iff.mpr ⟨hkeys, hlogging⟩
  · unfold Reads
    cases hget : config.get? "normalization" with
    | none =>
      have hnone : setting? config "normalization" = fun _ => none :=
        funext fun key => setting?_of_get?_eq_none hget
      rw [hnone] at hnormalization
      exact hnormalization.eq_default
    | some value =>
      obtain ⟨entries, rfl, hkeys⟩ := h.get? hget
      have hentries : setting? config "normalization" = fun key => Entries.get? key entries :=
        funext fun key => setting?_of_get? hget
      rw [hentries] at hnormalization
      exact normalization_eq_ok_iff.mpr ⟨hkeys, hnormalization⟩

end Checking

end NameKeys.Proofs
