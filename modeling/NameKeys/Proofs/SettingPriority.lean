import NameKeys.Proofs.ConsultedFiles
import NameKeys.Proofs.OverriddenSettings
import NameKeys.Proofs.ParsedTables

/-!
# Which source settles a setting

A setting is what the first source has that has it at all: the environment, then the file of the
user, then the file of the system, then the defaults. Merging keeps this up source by source, and the
environment variable by variable. Only tables are not settled this way, because they are merged.
-/

namespace NameKeys.Proofs

/-! ### What each source has -/

/-- Whether a text is a document in which only tables stand. -/
def IsSectioned (t : Text) : Prop := ∃ table, Toml.parse t = .ok table ∧ HoldsSections table

instance (config : Table) : Decidable (HoldsSections config) :=
  inferInstanceAs (Decidable (∀ e ∈ config, ∃ entries, e.2 = .table entries))

instance (t : Text) : Decidable (IsSectioned t) :=
  match hparse : Toml.parse t with
  | .ok table => decidable_of_iff (HoldsSections table)
    ⟨fun h => ⟨table, hparse, h⟩, fun ⟨_, hother, h⟩ => Except.ok.inj (hparse.symm.trans hother) ▸ h⟩
  | .error _ => .isFalse fun ⟨_, hother, _⟩ => nomatch hparse.symm.trans hother

def textSetting? (sectionName key t : Text) : Option Value :=
  (Toml.parse t).toOption.bind fun table => setting? table sectionName key

/-- What the file at a path has for a setting. -/
def fileSetting? (h : Host) (sectionName key path : Text) : Option Value :=
  (textAt? h path).bind (textSetting? sectionName key)

def variableSetting? (program : Text) (schema : Schema) (sectionName key : Text)
    (named : Text × Text) : Option Value :=
  if Environment.address? program named.1 = some (sectionName, key) then
    some (Environment.convert (schema.listFields.contains (sectionName, key)) named.2)
  else none

/-- What the environment has for a setting. Of the variables that address it the last one counts. -/
def environmentSetting? (program : Text) (schema : Schema) (sectionName key : Text)
    (environment : Environment) : Option Value :=
  environment.reverse.findSome? (variableSetting? program schema sectionName key)

/-- What the first source has for a setting that has it at all. -/
def foremost? (h : Host) (program : Text) (schema : Schema) (path? : Option Text)
    (sectionName key : Text) : Option Value :=
  (environmentSetting? program schema sectionName key h.environment).or
    ((consultedPaths h program path?).findSome? (fileSetting? h sectionName key))

/-- Whether what stands at a setting is what its first source has, if that is no table. -/
def IsSettled (stands first : Option Value) : Prop :=
  (∀ entries, first ≠ some (.table entries)) → stands = first

lemma IsSettled.text {stands first : Option Value} (hsettled : IsSettled stands first) {t : Text}
    (htext : first.bind Value.text? = some t) : stands.bind Value.text? = some t := by
  have hstands : stands = first := hsettled fun entries htable => by
    rw [htable] at htext
    simp [Value.text?] at htext
  rw [hstands, htext]

variable {h : Host} {program : Text} {schema : Schema} {path? : Option Text} {config : Table}

/-! ### Merging -/

lemma isSettled_merge {base override : Table} {sectionName key : Text} {first : Option Value}
    (hbase : HoldsSections base) (hover : HoldsSections override) (hkeys : KeysDistinct override)
    (hsettled : IsSettled (setting? base sectionName key) first) :
    IsSettled (setting? (Table.merge base override) sectionName key)
      ((setting? override sectionName key).or first) := by
  intro htable
  rw [setting?_merge hbase hover hkeys]
  cases hvalue : setting? override sectionName key with
  | none =>
    rw [hvalue] at htable
    exact hsettled htable
  | some value =>
    rw [hvalue] at htable
    have hnot : ∀ entries, value ≠ .table entries := fun entries heq =>
      htable entries (congrArg some heq)
    exact congrArg some (mergeOver_of_not_table hnot _)

lemma table_ok {finding : Finding} (hstray : strayAt? finding = none)
    (hvalid : ∀ text ∈ finding.text?, IsSectioned text) :
    ∃ table, finding.table = .ok table ∧ HoldsSections table ∧ KeysDistinct table ∧
      ∀ sectionName key,
        setting? table sectionName key = finding.text?.bind (textSetting? sectionName key) := by
  cases finding with
  | nothing => exact ⟨[], rfl, nofun, ⟨.nil, nofun⟩, fun _ _ => rfl⟩
  | astray error => cases hstray
  | text text =>
    obtain ⟨table, hparse, hsections⟩ := hvalid text rfl
    refine ⟨table, ?_, hsections, keysDistinct_of_parse hparse, fun sectionName key => ?_⟩
    · rw [Finding.table, hparse]
      rfl
    · rw [Finding.text?, Option.bind_some, textSetting?, hparse]
      rfl

lemma findSome?_consultedPaths (has? : Text → Option Value) :
    (consultedPaths h program path?).findSome? has? =
      (has? (h.userPath program)).or ((has? (h.systemPath program)).or
        ((defaultsPath? h program path?).toOption.join.bind has?)) := by
  rw [consultedPaths, List.findSome?_cons, List.findSome?_cons]
  cases has? (h.userPath program) <;> cases has? (h.systemPath program) <;>
    cases (defaultsPath? h program path?).toOption.join <;> simp

lemma bind_text?_defaultsFinding (sectionName key : Text) :
    (defaultsFinding h program path?).text?.bind (textSetting? sectionName key) =
      (defaultsPath? h program path?).toOption.join.bind (fileSetting? h sectionName key) := by
  rw [defaultsFinding]
  cases defaultsPath? h program path? with
  | error error => rfl
  | ok found? => cases found? <;> rfl

/-- The files together set what the first of them has. -/
lemma merged_settled (hstray : stray? h program path? = none)
    (hvalid : ∀ path ∈ consultedPaths h program path?, ∀ text ∈ textAt? h path, IsSectioned text) :
    ∃ config, Source.merged (h.sources program path?) = .ok config ∧ HoldsSections config ∧
      ∀ sectionName key, IsSettled (setting? config sectionName key)
        ((consultedPaths h program path?).findSome? (fileSetting? h sectionName key)) := by
  have htable : ∀ finding ∈ findings h program path?, _ := fun finding hmem =>
    table_ok (strayAt?_of_mem hstray finding hmem) fun text htext => by
      obtain ⟨path, hpath, htext⟩ := exists_consulted hmem htext
      exact hvalid path hpath text htext
  have hprogram : Host.isAstray program = false := by
    have huser := strayAt?_of_mem hstray _ (List.mem_of_getElem? (i := 2) rfl)
    by_contra hastray
    rw [Bool.not_eq_false] at hastray
    rw [if_pos hastray] at huser
    cases huser
  have hfindings : findings h program path? = [defaultsFinding h program path?,
      h.look (h.systemPath program), h.look (h.userPath program)] := by
    rw [findings, hprogram]
    rfl
  rw [merged_eq, hfindings]
  simp only [hfindings, List.forall_mem_cons] at htable
  obtain ⟨⟨lowest, hlowest, hlowestSections, hlowestKeys, hlowestHas⟩,
    ⟨middle, hmiddle, hmiddleSections, hmiddleKeys, hmiddleHas⟩,
    ⟨highest, hhighest, hhighestSections, hhighestKeys, hhighestHas⟩, -⟩ := htable
  have hempty : HoldsSections [] := fun _ hmem => absurd hmem List.not_mem_nil
  have hfirst := hempty.merge hlowestSections
  have hsecond := hfirst.merge hmiddleSections
  refine ⟨Table.merge (Table.merge (Table.merge [] lowest) middle) highest, ?_,
    hsecond.merge hhighestSections, fun sectionName key => ?_⟩
  · simp only [List.mapM_cons, hlowest, hmiddle, hhighest]
    rfl
  · have hnothing : IsSettled (setting? [] sectionName key) none := fun _ => rfl
    have hsettled := isSettled_merge hsecond hhighestSections hhighestKeys
      (isSettled_merge hfirst hmiddleSections hmiddleKeys
        (isSettled_merge hempty hlowestSections hlowestKeys hnothing))
    rw [hhighestHas, hmiddleHas, hlowestHas, bind_text?_defaultsFinding, Option.or_none] at hsettled
    rw [findSome?_consultedPaths]
    exact hsettled

/-! ### The environment -/

lemma environmentSetting?_eq (program : Text) (schema : Schema) (sectionName key : Text)
    (environment : Environment) :
    environmentSetting? program schema sectionName key environment =
      lastValue? program (· ∈ schema.listFields) environment (sectionName, key) := by
  unfold environmentSetting?
  induction environment with
  | nil => rfl
  | cons named rest ih =>
    have hnamed : variableSetting? program schema sectionName key named =
        lastValue? program (· ∈ schema.listFields) [named] (sectionName, key) := by
      rw [variableSetting?, lastValue?_singleton, List.contains_eq_mem]
    rw [List.reverse_cons, List.findSome?_append, ih, List.findSome?_singleton, hnamed,
      ← lastValue?_append]
    rfl

lemma overrideAll_ok (hconfig : HoldsSections config) (program : Text) (schema : Schema)
    (environment : Environment) :
    ∃ after,
      Environment.overrideAll program (· ∈ schema.listFields) environment config = .ok after ∧
      HoldsSections after ∧
      ∀ sectionName key first, IsSettled (setting? config sectionName key) first →
        IsSettled (setting? after sectionName key)
          ((environmentSetting? program schema sectionName key environment).or first) := by
  have hno : ∀ named ∈ environment, ¬ Clashes program config named := by
    rintro named - ⟨address, -, value, hvalue, hnot⟩
    exact hnot (hconfig.get? hvalue)
  obtain ⟨after, hafter, hturns⟩ := turnsInto_overrideAll (· ∈ schema.listFields) hno
  refine ⟨after, hafter, hturns.sections hconfig, fun sectionName key first hsettled => ?_⟩
  rw [environmentSetting?_eq, hturns.settings]
  cases lastValue? program (· ∈ schema.listFields) environment (sectionName, key) with
  | none => exact hsettled
  | some value => exact fun _ => rfl

/-! ### Loaded settings -/

/-- Files of all kinds for a program, one of them empty and one not consulted, and a variable. -/
def layeredHost : Host where
  files := [
    ("/work/config/defaults.toml", "[logging]\nfile = \"a\"\nformat = \"json\""),
    ("/home/user/.config/app/defaults.toml", "level"),
    ("/etc/app/config.toml", "[logging]\nfile = \"b\""),
    ("/home/user/.config/app/config.toml", [])]
  environment := [("HOME", "/home/user"), ("APP_LOGGING_LEVEL", "DEBUG")]
  directory := "/work"
  hasProgramData := false

/-- The host in a system that refuses to look a name up. -/
def refusingHost : Host :=
  { layeredHost with refusal? := fun path =>
      if path = "mine.toml" then some "[Errno 36] File name too long: 'mine.toml'" else none }

def homelessHost : Host := { layeredHost with environment := [("HOME", "~user/")] }

end NameKeys.Proofs
