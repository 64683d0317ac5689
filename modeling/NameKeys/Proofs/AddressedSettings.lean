import NameKeys.Config.Schema
import NameKeys.Proofs.OverriddenSettings

/-!
# Settings that variables address

A variable addresses at most one setting, a key of a section, by its name alone. Of the variables
that address a setting the last one stands, and whatever no variable addresses stays as it was. So
what variables set depends on the variables for each setting and on nothing between them.
-/

namespace NameKeys.Proofs
open Environment (address? convert)

/-! ### Lists among the settings of a class -/

/-- Whether a class has a list at a key of a section: the type of the section is a class that derives
from the class of settings, and that of the key in it is a type of lists. -/
def IsListField (fields : Entries FieldType) (sectionName key : Text) : Prop :=
  ∃ lineage inner, (sectionName, FieldType.ofClass lineage inner) ∈ fields ∧
    FieldType.baseName ∈ lineage ∧ (key, FieldType.generic FieldType.listName) ∈ inner

lemma fields?_eq_some_iff {type : FieldType} {inner : Entries FieldType} :
    type.fields? = some inner ↔
      ∃ lineage, type = .ofClass lineage inner ∧ FieldType.baseName ∈ lineage := by
  cases type with
  | ofClass lineage fields =>
    rw [FieldType.fields?, Option.ite_none_right_eq_some]
    constructor
    · rintro ⟨hbase, hfields⟩
      exact ⟨lineage, by rw [Option.some.inj hfields], hbase⟩
    · rintro ⟨_, heq, hbase⟩
      obtain ⟨rfl, rfl⟩ := FieldType.ofClass.inj heq
      exact ⟨hbase, rfl⟩
  | generic origin => exact iff_of_false nofun nofun
  | form => exact iff_of_false nofun nofun

lemma origin?_eq_some_iff {type : FieldType} {origin : Text} :
    type.origin? = some origin ↔ type = .generic origin := by
  cases type with
  | generic other => rw [FieldType.origin?, Option.some.injEq, FieldType.generic.injEq]
  | ofClass lineage fields => exact iff_of_false nofun nofun
  | form => exact iff_of_false nofun nofun

lemma mem_listFieldsOf {fields : Entries FieldType} {sectionName key : Text} :
    (sectionName, key) ∈ listFieldsOf fields ↔ IsListField fields sectionName key := by
  unfold listFieldsOf IsListField
  rw [List.mem_flatMap]
  constructor
  · rintro ⟨⟨name, type⟩, hfield, hmem⟩
    dsimp only at hmem
    cases hinner : type.fields? with
    | none =>
      rw [hinner] at hmem
      exact absurd hmem List.not_mem_nil
    | some inner =>
      rw [hinner] at hmem
      obtain ⟨⟨itsKey, itsType⟩, hmem, heq⟩ := List.mem_map.mp hmem
      obtain ⟨hkey, horigin⟩ := List.mem_filter.mp hmem
      obtain ⟨rfl, rfl⟩ := Prod.mk.inj heq
      obtain ⟨lineage, rfl, hbase⟩ := fields?_eq_some_iff.mp hinner
      obtain rfl := origin?_eq_some_iff.mp (of_decide_eq_true horigin)
      exact ⟨lineage, inner, hfield, hbase, hkey⟩
  · rintro ⟨lineage, inner, hfield, hbase, hkey⟩
    refine ⟨_, hfield, ?_⟩
    have hinner : (FieldType.ofClass lineage inner).fields? = some inner :=
      fields?_eq_some_iff.mpr ⟨lineage, rfl, hbase⟩
    dsimp only
    rw [hinner]
    exact List.mem_map.mpr ⟨_, List.mem_filter.mpr ⟨hkey, decide_eq_true rfl⟩, rfl⟩

/-! ### What variables do -/

/-- Whether a table holds at each setting that variables address what the last of them says, as a
list where the class has one, and is otherwise as it was. -/
structure IsOverridden (program : Text) (fields : Entries FieldType) (environment : Environment)
    (config after : Table) : Prop where
  addressed : ∀ sectionName key last,
    (variablesFor program environment (sectionName, key)).getLast? = some last →
    ∃ asList, (asList = true ↔ IsListField fields sectionName key) ∧
      setting? after sectionName key = some (convert asList last.2)
  settings : ∀ sectionName key, variablesFor program environment (sectionName, key) = [] →
    setting? after sectionName key = setting? config sectionName key
  sections : ∀ sectionName, (∀ key, variablesFor program environment (sectionName, key) = []) →
    after.get? sectionName = config.get? sectionName

/-- Whether two tables differ in the order of sections and of keys in them at most. -/
structure SameSettings (config other : Table) : Prop where
  keys : config.keys.Perm other.keys
  sections : ∀ sectionName, config.get? sectionName = other.get? sectionName ∨
    ∃ entries others, config.get? sectionName = some (.table entries) ∧
      other.get? sectionName = some (.table others) ∧ entries.Perm others

/-- Whether two runs fail both or give tables that differ in the order of keys at most. -/
def SameOutcome : Except Environment.NotATable Table → Except Environment.NotATable Table → Prop
  | .ok config, .ok other => SameSettings config other
  | .error _, .error _ => True
  | _, _ => False

def addressing (program : Text) (environment : Environment) : Environment :=
  environment.filter fun named => (address? program named.1).isSome

section Outcomes

variable {program sectionName key : Text} {isList : Text × Text → Bool}
  {fields : Entries FieldType} {environment other : Environment} {config after : Table}

lemma TurnsInto.isOverridden
    (h : TurnsInto program (· ∈ listFieldsOf fields) environment config after) :
    IsOverridden program fields environment config after where
  addressed := by
    intro sectionName key last hlast
    refine ⟨decide ((sectionName, key) ∈ listFieldsOf fields), ?_, h.addressed hlast⟩
    exact decide_eq_true_iff.trans mem_listFieldsOf
  settings := by
    intro sectionName key hnone
    rw [h.settings, lastValue?, hnone]
    rfl
  sections := h.others

/-! ### Two runs -/

lemma mem_keys_iff {α : Type} {entries : Entries α} {key : Text} :
    key ∈ entries.keys ↔ entries.get? key ≠ none := by
  induction entries with
  | nil => exact iff_of_false List.not_mem_nil fun hne => hne rfl
  | cons entry rest ih =>
    obtain ⟨name, item⟩ := entry
    rw [get?_cons]
    by_cases hkey : key = name
    · rw [if_pos hkey]
      exact iff_of_true (hkey ▸ List.mem_cons_self ..) nofun
    · rw [if_neg hkey, ← ih]
      exact List.mem_cons.trans (or_iff_right hkey)

lemma perm_of_get?_eq {α : Type} {entries others : Entries α} (hentries : entries.keys.Nodup)
    (hothers : others.keys.Nodup) (h : ∀ key, entries.get? key = others.get? key) :
    entries.Perm others := by
  refine (List.perm_ext_iff_of_nodup hentries.of_map hothers.of_map).mpr fun ⟨key, item⟩ => ?_
  constructor
  · intro hmem
    exact mem_of_get? ((h key).symm.trans (get?_of_mem hentries hmem))
  · intro hmem
    exact mem_of_get? ((h key).trans (get?_of_mem hothers hmem))

lemma TurnsInto.sameSettings {result : Table} (hkeys : KeysDistinct config)
    (hsame : ∀ address,
      variablesFor program other address = variablesFor program environment address)
    (hother : TurnsInto program isList other config result)
    (h : TurnsInto program isList environment config after) : SameSettings result after := by
  have hsettings : ∀ sectionName key,
      setting? result sectionName key = setting? after sectionName key := fun sectionName key => by
    rw [hother.settings, h.settings, lastValue?, lastValue?, hsame]
  have hsections : ∀ sectionName, result.get? sectionName = after.get? sectionName ∨
      ∃ entries others, result.get? sectionName = some (.table entries) ∧
        after.get? sectionName = some (.table others) ∧ entries.Perm others := by
    intro sectionName
    by_cases hnone : ∀ key, variablesFor program environment (sectionName, key) = []
    · have hnone' : ∀ key, variablesFor program other (sectionName, key) = [] := fun key =>
        (hsame _).trans (hnone key)
      rw [h.others sectionName hnone, hother.others sectionName hnone']
      exact .inl rfl
    · -- The section is a table in both results.
      obtain ⟨key, hsome⟩ := not_forall.mp hnone
      obtain ⟨others, hothers⟩ := h.exists_get? hsome
      rw [← hsame] at hsome
      obtain ⟨entries, hentries⟩ := hother.exists_get? hsome
      refine .inr ⟨entries, others, hentries, hothers, ?_⟩
      refine perm_of_get?_eq ((hother.keys hkeys).settings _ (mem_of_get? hentries) entries rfl)
        ((h.keys hkeys).settings _ (mem_of_get? hothers) others rfl) fun itsKey => ?_
      rw [← setting?_of_get? hentries, ← setting?_of_get? hothers, hsettings]
  refine ⟨?_, hsections⟩
  refine (List.perm_ext_iff_of_nodup (hother.keys hkeys).sections (h.keys hkeys).sections).mpr ?_
  intro sectionName
  rw [mem_keys_iff, mem_keys_iff]
  rcases hsections sectionName with heq | ⟨entries, others, hentries, hothers, -⟩
  · rw [heq]
  · exact iff_of_true (by simp [hentries]) (by simp [hothers])

lemma exists_clashes_of_variablesFor
    (hsame : ∀ address,
      variablesFor program other address = variablesFor program environment address)
    (h : ∃ named ∈ other, Clashes program config named) :
    ∃ named ∈ environment, Clashes program config named := by
  obtain ⟨named, hnamed, address, haddress, hclash⟩ := h
  have hmem := mem_variablesFor.mpr ⟨hnamed, Option.mem_def.mp haddress⟩
  rw [hsame] at hmem
  exact ⟨named, (mem_variablesFor.mp hmem).1, address, haddress, hclash⟩

lemma overrideAll_addressing (environment : Environment) (config : Table) :
    Environment.overrideAll program isList (addressing program environment) config =
      Environment.overrideAll program isList environment config := by
  unfold Environment.overrideAll addressing
  induction environment generalizing config with
  | nil => rfl
  | cons named rest ih =>
    rw [List.foldlM_cons]
    cases haddress : address? program named.1 with
    | none =>
      have hnothing : Environment.override program isList config named = .ok config := by
        rw [Environment.override, haddress]
      rw [List.filter_cons_of_neg (by simp [haddress]), ih, hnothing]
      rfl
    | some address =>
      rw [List.filter_cons_of_pos (by simp [haddress]), List.foldlM_cons]
      exact bind_congr fun next => ih next

end Outcomes

lemma sameOutcome_overrideAll {program : Text} {environment other : Environment} {config : Table}
    (isList : Text × Text → Bool) (hkeys : KeysDistinct config)
    (hsame : ∀ address,
      variablesFor program other address = variablesFor program environment address) :
    SameOutcome (Environment.overrideAll program isList other config)
      (Environment.overrideAll program isList environment config) := by
  by_cases hclash : ∃ named ∈ environment, Clashes program config named
  · have hclash' := exists_clashes_of_variablesFor (fun address => (hsame address).symm) hclash
    obtain ⟨error, herror⟩ := (overrideAll_eq_error_iff isList environment).mpr hclash
    obtain ⟨error', herror'⟩ := (overrideAll_eq_error_iff isList other).mpr hclash'
    rw [herror, herror']
    trivial
  · obtain ⟨after, hafter, hturns⟩ := turnsInto_overrideAll isList
      fun named hnamed hnot => hclash ⟨named, hnamed, hnot⟩
    obtain ⟨result, hresult, hresults⟩ := turnsInto_overrideAll isList fun named hnamed hnot =>
      hclash (exists_clashes_of_variablesFor hsame ⟨named, hnamed, hnot⟩)
    rw [hafter, hresult]
    exact hresults.sameSettings hkeys hsame hturns

/-- The name of a variable alone says which setting it addresses. Variables fail exactly if one
addresses a section that is there and is no table. Otherwise each setting that they address is what
the last of them says, and all else is as it was. Variables that address nothing make no difference.
As long as the variables for each setting stay the same and in order, whatever stands between them,
no more than the order of keys can change. -/
theorem settings_by_last_variable (program : Text) (fields : Entries FieldType)
    (environment : Environment) {config : Table} (hkeys : KeysDistinct config) :
    let run := fun environment =>
      Environment.overrideAll program (· ∈ listFieldsOf fields) environment config
    (∀ name sectionName key, address? program name = some (sectionName, key) ↔
      Addresses program name sectionName key) ∧
    ((∃ error, run environment = .error error) ↔
      ∃ named ∈ environment, Clashes program config named) ∧
    ((¬ ∃ named ∈ environment, Clashes program config named) →
      ∃ after, run environment = .ok after ∧
        IsOverridden program fields environment config after) ∧
    (∀ other, addressing program other = addressing program environment →
      run other = run environment) ∧
    ∀ other, (∀ address, variablesFor program other address =
        variablesFor program environment address) →
      SameOutcome (run other) (run environment) := by
  intro run
  refine ⟨fun _ _ _ => address?_eq_some_iff, overrideAll_eq_error_iff _ environment, fun hno => ?_,
    fun other hsame => ?_, fun other hsame => sameOutcome_overrideAll _ hkeys hsame⟩
  · obtain ⟨after, hafter, hturns⟩ := turnsInto_overrideAll (· ∈ listFieldsOf fields)
      fun named hnamed hclash => hno ⟨named, hnamed, hclash⟩
    exact ⟨after, hafter, hturns.isOverridden⟩
  · have hother : run (addressing program other) = run other := overrideAll_addressing other config
    rw [hsame] at hother
    exact hother.symm.trans (overrideAll_addressing environment config)

/-- The name of a variable for a list, and another name for the same list. -/
def listNames : Text × Text := ("APP_NORMALIZATION_OPTIONS", "APP_Normalization_options")

/-- Two variables for one setting, one for another and one that addresses nothing. -/
def repeatedVariables : Environment :=
  [(listNames.1, "nfc, case_fold_ascii"), ("APP_LOGGING", "x"), ("APP_LOGGING_LEVEL", "yes"),
    (listNames.2, " nfd,,")]

def movedVariables : Environment :=
  [("APP_LOGGING_LEVEL", "yes"), (listNames.1, "nfc, case_fold_ascii"), (listNames.2, " nfd,,")]

def clashingVariables : Environment := [("APP_EXTRA_KEY", "1")]

def partialSettings : Table := [("logging", .table [("file", .text "a,b")]), ("extra", .int 1)]

theorem settings_by_last_of_repeated_variables :
    KeysDistinct partialSettings ∧
    (∃ after, Environment.overrideAll "app" (· ∈ Schema.settings.listFields) repeatedVariables
        partialSettings = .ok after ∧
      setting? after "normalization" "options" = some (.ofTexts ["nfd"]) ∧
      setting? after "logging" "file" = some (.text "a,b") ∧ after.get? "extra" = some (.int 1)) ∧
    SameOutcome
      (Environment.overrideAll "app" (· ∈ Schema.settings.listFields) movedVariables
        partialSettings)
      (Environment.overrideAll "app" (· ∈ Schema.settings.listFields) repeatedVariables
        partialSettings) ∧
    ∃ error, Environment.overrideAll "app" (· ∈ Schema.settings.listFields) clashingVariables
      partialSettings = .error error := by
  have hkeys : KeysDistinct partialSettings := by
    refine ⟨by decide +kernel, fun e he entries hentries => ?_⟩
    rcases List.mem_cons.mp he with rfl | he
    · obtain rfl := Value.table.inj hentries
      exact List.nodup_singleton _
    · obtain rfl := List.mem_singleton.mp he
      cases hentries
  let listed : Text × Text := ("normalization", "options")
  let path : Text × Text := ("logging", "file")
  let level : Text × Text := ("logging", "level")
  obtain ⟨hclash, hclashing, hfirst, hsecond, hlevel, hnothing, hlastText, hitems, hpath, hextra⟩ :
      (¬ ∃ named ∈ repeatedVariables, Clashes "app" partialSettings named) ∧
      (∃ named ∈ clashingVariables, Clashes "app" partialSettings named) ∧
      address? "app" listNames.1 = some listed ∧ address? "app" listNames.2 = some listed ∧
      address? "app" "APP_LOGGING_LEVEL" = some level ∧ address? "app" "APP_LOGGING" = none ∧
      (variablesFor "app" repeatedVariables listed).getLast?.map (·.2) =
        some (Text.ofString " nfd,,") ∧
      Environment.items " nfd,," = [Text.ofString "nfd"] ∧
      variablesFor "app" repeatedVariables path = [] ∧
      ∀ named ∈ repeatedVariables,
        (address? "app" named.1).map (·.1) ≠ some (Text.ofString "extra") := by
    decide +kernel
  obtain ⟨-, -, hok, -, hmoved⟩ :=
    settings_by_last_variable "app" Schema.settings.fieldTypes repeatedVariables hkeys
  obtain ⟨after, hafter, hover⟩ := hok hclash
  refine ⟨hkeys, ⟨after, hafter, ?_, ?_, ?_⟩, hmoved movedVariables fun address => ?_, ?_⟩
  · obtain ⟨last, hlast, htext⟩ := Option.map_eq_some_iff.mp hlastText
    obtain ⟨asList, hlist, hset⟩ := hover.addressed "normalization" "options" last hlast
    have hasList : asList = true := hlist.mpr
      ⟨_, _, .tail _ (.head _), .tail _ (.head _), .head _⟩
    rw [hset, hasList, htext, ← hitems]
    rfl
  · exact hover.settings "logging" "file" hpath
  · refine hover.sections "extra" fun key => List.filter_eq_nil_iff.mpr fun named hnamed haddress => ?_
    refine hextra named hnamed ?_
    rw [of_decide_eq_true haddress]
    rfl
  · unfold variablesFor movedVariables repeatedVariables
    simp only [List.filter_cons, List.filter_nil, hfirst, hsecond, hlevel, hnothing]
    by_cases hlisted : some listed = some address
    · have hdiffer : some level ≠ some address := fun hlevel =>
        absurd (hlevel.trans hlisted.symm) (by decide +kernel)
      simp [hlisted, hdiffer]
    · simp [hlisted]
  · exact (settings_by_last_variable "app" _ _ hkeys).2.1.mpr hclashing

end NameKeys.Proofs
