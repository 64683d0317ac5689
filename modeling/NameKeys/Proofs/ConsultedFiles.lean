import Mathlib.Tactic.Lemma
import NameKeys.Command.Grammar
import NameKeys.Config.Load

/-!
# Consulted files

Of the files that a host has, loading settings reads at most three: the defaults, which are searched
at several places, the file of the system and the file of the user. This file says which they are,
where a search for them goes astray, and that neither the settings nor the notices depend on any
other.
-/

namespace NameKeys.Proofs

/-- The error of a place that gives no answer. -/
def strayAt? : Finding → Option Astray
  | .astray error => some error
  | _ => none

/-- Where the defaults are read: at the given path or, if nothing is there, at the first of the usual
paths where something is found. -/
def defaultsPath? (h : Host) (program : Text) (path? : Option Text) :
    Except Astray (Option Text) :=
  match (path?.map h.conventions.clean).filter fun path => h.look path ≠ .nothing with
  | some path => .ok (some path)
  | none => (h.defaultsPaths program).map fun paths => paths.find? fun path => h.look path ≠ .nothing

def defaultsFinding (h : Host) (program : Text) (path? : Option Text) : Finding :=
  match defaultsPath? h program path? with
  | .error error => .astray error
  | .ok none => .nothing
  | .ok (some path) => h.look path

/-- What is found at the places of settings, in the order in which they are read. -/
def findings (h : Host) (program : Text) (path? : Option Text) : List Finding :=
  [defaultsFinding h program path?, h.look (h.systemPath program),
    if Host.isAstray program then .astray (.program program) else h.look (h.userPath program)]

/-- Where a search goes astray first, if it does. -/
def stray? (h : Host) (program : Text) (path? : Option Text) : Option Astray :=
  (findings h program path?).findSome? strayAt?

/-- Whether a system tells all that a search for the settings of a program asks for. -/
structure TellsAll (h : Host) (program : Text) : Prop where
  home : ∃ home, h.home = .ok home
  directory : h.directoryRefusal? = none
  paths : ∀ path, h.refusal? path = none
  program : Host.isAstray program = false

/-- The paths that are consulted, the one with the last word first. -/
def consultedPaths (h : Host) (program : Text) (path? : Option Text) : List Text :=
  h.userPath program :: h.systemPath program ::
    ((defaultsPath? h program path?).toOption.join).toList

def textAt? (h : Host) (path : Text) : Option Text := (h.look path).text?

/-- The warnings that a search for settings should give: one if there is no file at the path that
was given for the defaults. -/
def missingFileWarnings (h : Host) (path? : Option Text) : List Notice :=
  ((path?.map h.conventions.clean).filter fun path => h.look path = .nothing).toList.map fun path =>
    ⟨LogLevel.warning, "Config file not found: " ++ path ++ ", using default locations"⟩

variable {h : Host} {program : Text} {path? : Option Text}

/-! ### What the sources find -/

lemma text?_eq_some_iff {finding : Finding} {text : Text} :
    finding.text? = some text ↔ finding = .text text := by
  cases finding <;> simp [Finding.text?]

lemma textAt?_eq_some_iff {path text : Text} : textAt? h path = some text ↔ h.look path = .text text :=
  text?_eq_some_iff

lemma finding_sourceAt (h : Host) (kind path : Text) (missing : List Notice) :
    (h.sourceAt kind path missing).finding = h.look path := by
  rw [Host.sourceAt]
  cases h.look path <;> rfl

/-- The source of the defaults, but for a warning about the given path. -/
def plainDefaults (h : Host) (program : Text) (path? : Option Text) : Source :=
  match defaultsPath? h program path? with
  | .error error => ⟨[], .astray error⟩
  | .ok (some path) => h.sourceAt "defaults" path []
  | .ok none =>
    let searched := Value.ofTexts ((h.defaultsPaths program).toOption.getD [])
    ⟨[Host.remark ("No defaults found, searched: " ++ searched.literal)], .nothing⟩

lemma plainDefaults_none (h : Host) (program : Text) :
    plainDefaults h program none = h.usualDefaults program := by
  have hpath : defaultsPath? h program none = (h.defaultsPaths program).map
      fun paths => paths.find? fun path => h.look path ≠ .nothing := rfl
  rw [plainDefaults, Host.usualDefaults, hpath]
  cases h.defaultsPaths program with
  | error error => rfl
  | ok paths =>
    simp only [Except.map]
    cases paths.find? fun path => h.look path ≠ .nothing <;> rfl

lemma defaultsPath?_of_found {path : Text} (hlook : h.look (h.conventions.clean path) ≠ .nothing) :
    defaultsPath? h program (some path) = .ok (some (h.conventions.clean path)) := by
  simp [defaultsPath?, Option.filter_some, hlook]

lemma defaultsPath?_of_missing {path : Text} (hlook : h.look (h.conventions.clean path) = .nothing) :
    defaultsPath? h program (some path) = defaultsPath? h program none := by
  simp [defaultsPath?, Option.filter_some, hlook]

lemma defaults_eq (h : Host) (program : Text) (path? : Option Text) :
    h.defaults program path? =
      ⟨missingFileWarnings h path? ++ (plainDefaults h program path?).notices,
        (plainDefaults h program path?).finding⟩ := by
  cases path? with
  | none =>
    rw [plainDefaults_none]
    rfl
  | some path =>
    rw [Host.defaults]
    by_cases hlook : h.look (h.conventions.clean path) = .nothing
    · have hplain : plainDefaults h program (some path) = h.usualDefaults program := by
        rw [← plainDefaults_none, plainDefaults, plainDefaults, defaultsPath?_of_missing hlook]
      simp only [hplain, missingFileWarnings, Option.map_some, Option.filter_some, hlook]
      rfl
    · have hplain : plainDefaults h program (some path) =
          h.sourceAt "defaults" (h.conventions.clean path) [] := by
        rw [plainDefaults, defaultsPath?_of_found hlook]
      simp [hplain, missingFileWarnings, Option.filter_some, hlook]

lemma finding_defaults (h : Host) (program : Text) (path? : Option Text) :
    (h.defaults program path?).finding = defaultsFinding h program path? := by
  rw [defaults_eq, plainDefaults, defaultsFinding]
  cases defaultsPath? h program path? with
  | error error => rfl
  | ok found? =>
    cases found? with
    | none => rfl
    | some path => exact finding_sourceAt ..

lemma finding_user (h : Host) (program : Text) : (h.user program).finding =
    if Host.isAstray program then .astray (.program program) else h.look (h.userPath program) := by
  rw [Host.user]
  split
  · rfl
  · exact finding_sourceAt ..

lemma finding_sources (h : Host) (program : Text) (path? : Option Text) :
    (h.sources program path?).map Source.finding = findings h program path? := by
  simp only [Host.sources, List.map_cons, List.map_nil, finding_defaults, finding_user, Host.system,
    finding_sourceAt, findings]

lemma merged_eq (h : Host) (program : Text) (path? : Option Text) :
    Source.merged (h.sources program path?) =
      ((findings h program path?).mapM Finding.table).map
        fun tables => tables.foldl Table.merge [] := by
  rw [← finding_sources, List.mapM_map]
  rfl

lemma strayAt?_of_mem (hstray : stray? h program path? = none) :
    ∀ finding ∈ findings h program path?, strayAt? finding = none :=
  List.findSome?_eq_none_iff.mp hstray

lemma exists_consulted {finding : Finding} (hmem : finding ∈ findings h program path?)
    {text : Text} (htext : finding.text? = some text) :
    ∃ path ∈ consultedPaths h program path?, textAt? h path = some text := by
  simp only [findings, List.mem_cons, List.not_mem_nil, or_false] at hmem
  rcases hmem with rfl | rfl | rfl
  · rw [defaultsFinding] at htext
    cases hpath : defaultsPath? h program path? with
    | error error =>
      rw [hpath] at htext
      cases htext
    | ok found? =>
      rw [hpath] at htext
      cases found? with
      | none => cases htext
      | some path => exact ⟨path, by simp [consultedPaths, hpath, Except.toOption], htext⟩
  · exact ⟨h.systemPath program, by simp [consultedPaths], htext⟩
  · split at htext
    · cases htext
    · exact ⟨h.userPath program, by simp [consultedPaths], htext⟩

lemma strayAt?_look {path : Text} (hrefusal : h.refusal? path = none) :
    strayAt? (h.look path) = none := by
  rw [Host.look, hrefusal]
  cases List.lookup path h.files <;> rfl

lemma TellsAll.stray?_eq_none (htells : TellsAll h program) (path? : Option Text) :
    stray? h program path? = none := by
  obtain ⟨⟨home, hhome⟩, hdirectory, hrefusal, hprogram⟩ := htells
  have hpaths : ∃ paths, h.defaultsPaths program = .ok paths := by
    rw [Host.defaultsPaths, Host.currentDirectory, hdirectory, hhome]
    exact ⟨_, rfl⟩
  have hdefaults : strayAt? (defaultsFinding h program path?) = none := by
    obtain ⟨paths, hpaths⟩ := hpaths
    rw [defaultsFinding, defaultsPath?, hpaths]
    split
    · next hpath =>
      split at hpath <;> cases hpath
    · rfl
    · exact strayAt?_look (hrefusal _)
  rw [stray?, findings, hprogram]
  simp [hdefaults, strayAt?_look (hrefusal _)]

lemma load_of_merged (schema : Schema) {config : Table}
    (hmerged : Source.merged (h.sources program path?) = .ok config) :
    h.load program schema path? =
      ((Environment.overrideAll program (· ∈ schema.listFields) h.environment config).mapError
        .notATable).bind fun after => (schema.check after).mapError (.invalid schema) := by
  rw [Host.load, Host.gather, hmerged]
  rfl

lemma load_of_not_merged (schema : Schema) {error : LoadError}
    (hmerged : Source.merged (h.sources program path?) = .error error) :
    h.load program schema path? = .error error := by
  rw [Host.load, Host.gather, hmerged]
  rfl

lemma load_settings_eq {config after : Table}
    (hmerged : Source.merged (h.sources program path?) = .ok config)
    (hafter : Environment.overrideAll program (· ∈ Schema.settings.listFields) h.environment config =
      .ok after) :
    h.load program .settings path? = (Check.settings after).mapError (.invalid .settings) := by
  rw [load_of_merged .settings hmerged, hafter]
  rfl

lemma mapM_table_of_astray {found : List Finding}
    (hread : ∀ finding ∈ found, ∀ text, finding.text? = some text →
      ∃ table, Toml.parse text = .ok table)
    {error : Astray} (hstray : found.findSome? strayAt? = some error) :
    found.mapM Finding.table = .error (.astray error) := by
  induction found with
  | nil => cases hstray
  | cons finding rest ih =>
    rw [List.findSome?_cons] at hstray
    have hrest := ih fun other hother => hread other (List.mem_cons_of_mem _ hother)
    rw [List.mapM_cons]
    cases finding with
    | astray other =>
      rw [Option.some.inj hstray]
      rfl
    | nothing =>
      rw [hrest hstray]
      rfl
    | text t =>
      obtain ⟨table, htable⟩ := hread _ (List.mem_cons_self ..) t rfl
      rw [hrest hstray, Finding.table, htable]
      rfl

/-- A search that goes astray ends loading, if the texts that are consulted can be read. -/
lemma load_of_stray (schema : Schema)
    (hread : ∀ path ∈ consultedPaths h program path?, ∀ text ∈ textAt? h path,
      ∃ table, Toml.parse text = .ok table)
    {error : Astray} (hstray : stray? h program path? = some error) :
    h.load program schema path? = .error (.astray error) := by
  refine load_of_not_merged schema ?_
  rw [merged_eq, mapM_table_of_astray ?_ hstray]
  · rfl
  · intro finding hmem text htext
    obtain ⟨path, hpath, htext⟩ := exists_consulted hmem htext
    exact hread path hpath text htext

/-- Settings depend on the files only by what the places set. -/
lemma load_congr {h' : Host} {schema : Schema} (henvironment : h'.environment = h.environment)
    (htables : (findings h' program path?).map Finding.table =
      (findings h program path?).map Finding.table) :
    h'.load program schema path? = h.load program schema path? := by
  have hmerged : Source.merged (h'.sources program path?) =
      Source.merged (h.sources program path?) := by
    have hmapM : ∀ found : List Finding,
        found.mapM Finding.table = (found.map Finding.table).mapM id := fun found => by
      rw [List.mapM_map]
      rfl
    rw [merged_eq, merged_eq, hmapM, htables, ← hmapM]
  rw [Host.load, Host.load, Host.gather, Host.gather, hmerged, henvironment]

/-! ### Other files -/

def withFiles (h : Host) (files : List (Text × Text)) : Host := { h with files }

/-- Whether with other files the defaults are read at the same path, and the same is found at the
paths that are consulted. -/
structure SameConsulted (h : Host) (program : Text) (path? : Option Text)
    (files : List (Text × Text)) : Prop where
  defaultsPath : defaultsPath? (withFiles h files) program path? = defaultsPath? h program path?
  looks : ∀ path ∈ consultedPaths h program path?, (withFiles h files).look path = h.look path

/-- Whether other files differ at a path at most in that a file that sets nothing is not there. -/
def SameOrEmpty (h : Host) (path : Text) (files : List (Text × Text)) : Prop :=
  (withFiles h files).look path = h.look path ∨
    (withFiles h files).look path = .nothing ∧ ∃ text ∈ textAt? h path, Toml.parse text = .ok []

section OtherFiles

variable {files : List (Text × Text)}

lemma sourceAt_congr {path : Text} (hlook : (withFiles h files).look path = h.look path)
    (kind : Text) (missing : List Notice) :
    (withFiles h files).sourceAt kind path missing = h.sourceAt kind path missing := by
  simp only [Host.sourceAt, hlook]

lemma look_clean_eq_nothing_iff (h : Host) (program path : Text) :
    h.look (h.conventions.clean path) = .nothing ↔
      defaultsPath? h program (some path) ≠ .ok (some (h.conventions.clean path)) := by
  constructor
  · intro hlook hpath
    rw [defaultsPath?_of_missing hlook] at hpath
    cases hpaths : h.defaultsPaths program with
    | error error =>
      rw [defaultsPath?, hpaths] at hpath
      cases hpath
    | ok paths =>
      rw [defaultsPath?, hpaths] at hpath
      have hfind : (paths.find? fun path => h.look path ≠ .nothing) =
          some (h.conventions.clean path) := Except.ok.inj hpath
      have hfound := List.find?_some hfind
      simp [hlook] at hfound
  · exact fun hpath => Decidable.byContradiction fun hlook => hpath (defaultsPath?_of_found hlook)

lemma SameConsulted.missingFileWarnings (hsame : SameConsulted h program path? files) :
    Proofs.missingFileWarnings (withFiles h files) path? = Proofs.missingFileWarnings h path? := by
  cases path? with
  | none => rfl
  | some path =>
    have hiff : (withFiles h files).look (h.conventions.clean path) = .nothing ↔
        h.look (h.conventions.clean path) = .nothing := by
      rw [look_clean_eq_nothing_iff h program path, ← hsame.defaultsPath]
      exact look_clean_eq_nothing_iff (withFiles h files) program path
    have hclean : (withFiles h files).conventions.clean path = h.conventions.clean path := rfl
    simp only [Proofs.missingFileWarnings, Option.map_some, Option.filter_some, hclean, hiff]

lemma SameConsulted.plainDefaults (hsame : SameConsulted h program path? files) :
    Proofs.plainDefaults (withFiles h files) program path? = Proofs.plainDefaults h program path? := by
  rw [Proofs.plainDefaults, Proofs.plainDefaults, hsame.defaultsPath]
  cases hpath : defaultsPath? h program path? with
  | error error => rfl
  | ok found? =>
    cases found? with
    | none => rfl
    | some path =>
      have hmem : path ∈ consultedPaths h program path? := by
        simp [consultedPaths, hpath, Except.toOption]
      exact sourceAt_congr (hsame.looks path hmem) ..

lemma SameConsulted.sources (hsame : SameConsulted h program path? files) :
    (withFiles h files).sources program path? = h.sources program path? := by
  have hdefaults : (withFiles h files).defaults program path? = h.defaults program path? := by
    rw [defaults_eq, defaults_eq, hsame.missingFileWarnings, hsame.plainDefaults]
  have hsystem : (withFiles h files).system program = h.system program :=
    sourceAt_congr (hsame.looks (h.systemPath program) (by simp [consultedPaths])) ..
  have huser : (withFiles h files).user program = h.user program := by
    rw [Host.user, Host.user]
    split
    · rfl
    · exact sourceAt_congr (hsame.looks (h.userPath program) (by simp [consultedPaths])) ..
  rw [Host.sources, Host.sources, hdefaults, hsystem, huser]

lemma SameOrEmpty.table {path : Text} (hsame : SameOrEmpty h path files) :
    ((withFiles h files).look path).table = (h.look path).table := by
  rcases hsame with hsame | ⟨hnone, text, htext, hempty⟩
  · rw [hsame]
  · rw [hnone, textAt?_eq_some_iff.mp htext, Finding.table, Finding.table, hempty]
    rfl

lemma load_of_sameOrEmpty (schema : Schema)
    (hdefaults : defaultsFinding (withFiles h files) program path? = defaultsFinding h program path?)
    (hsystem : SameOrEmpty h (h.systemPath program) files)
    (huser : SameOrEmpty h (h.userPath program) files) :
    (withFiles h files).load program schema path? = h.load program schema path? := by
  have hmiddle : ((withFiles h files).look ((withFiles h files).systemPath program)).table =
      (h.look (h.systemPath program)).table := hsystem.table
  have hhighest : ((withFiles h files).look ((withFiles h files).userPath program)).table =
      (h.look (h.userPath program)).table := huser.table
  refine load_congr rfl ?_
  simp only [findings, List.map_cons, hdefaults, hmiddle]
  split
  · rfl
  · rw [hhighest]

end OtherFiles

/-! ### Warnings -/

def warningsIn (notices : List Notice) : List Notice :=
  notices.filter fun notice => notice.level = LogLevel.warning

lemma warningsIn_append (before after : List Notice) :
    warningsIn (before ++ after) = warningsIn before ++ warningsIn after :=
  List.filter_append ..

lemma warningsIn_of_debug {notices : List Notice}
    (hdebug : ∀ notice ∈ notices, notice.level = LogLevel.debug) : warningsIn notices = [] := by
  refine List.filter_eq_nil_iff.mpr fun notice hmem => ?_
  rw [hdebug notice hmem]
  decide

lemma mem_noticesOf {sources : List Source} {notice : Notice}
    (hmem : notice ∈ Source.noticesOf sources) : ∃ s ∈ sources, notice ∈ s.notices := by
  induction sources with
  | nil => simp [Source.noticesOf] at hmem
  | cons s rest ih =>
    rw [Source.noticesOf] at hmem
    rcases List.mem_append.mp hmem with hmem | hmem
    · exact ⟨s, List.mem_cons_self .., hmem⟩
    · cases htable : s.table with
      | ok _ =>
        rw [htable] at hmem
        obtain ⟨other, hother, hmem⟩ := ih hmem
        exact ⟨other, List.mem_cons_of_mem _ hother, hmem⟩
      | error _ => simp [htable] at hmem

lemma warningsIn_noticesOf_cons (s : Source) {rest : List Source}
    (hdebug : ∀ other ∈ rest, ∀ notice ∈ other.notices, notice.level = LogLevel.debug) :
    warningsIn (Source.noticesOf (s :: rest)) = warningsIn s.notices := by
  rw [Source.noticesOf, warningsIn_append]
  cases s.table with
  | error _ => exact List.append_nil _
  | ok _ =>
    have hrest : warningsIn (Source.noticesOf rest) = [] := warningsIn_of_debug fun notice hmem => by
      obtain ⟨other, hother, hmem⟩ := mem_noticesOf hmem
      exact hdebug other hother notice hmem
    simp only [hrest, List.append_nil]

lemma sourceAt_debug (h : Host) (kind path : Text) {missing : List Notice}
    (hmissing : ∀ notice ∈ missing, notice.level = LogLevel.debug) :
    ∀ notice ∈ (h.sourceAt kind path missing).notices, notice.level = LogLevel.debug := by
  rw [Host.sourceAt]
  cases h.look path with
  | nothing => exact hmissing
  | text text => exact List.forall_mem_singleton.mpr rfl
  | astray error => exact List.forall_mem_nil _

lemma plainDefaults_debug (h : Host) (program : Text) (path? : Option Text) :
    ∀ notice ∈ (plainDefaults h program path?).notices, notice.level = LogLevel.debug := by
  rw [plainDefaults]
  cases defaultsPath? h program path? with
  | error error => exact List.forall_mem_nil _
  | ok found? =>
    cases found? with
    | none => exact List.forall_mem_singleton.mpr rfl
    | some path => exact sourceAt_debug _ _ _ (List.forall_mem_nil _)

lemma user_debug (h : Host) (program : Text) :
    ∀ notice ∈ (h.user program).notices, notice.level = LogLevel.debug := by
  rw [Host.user]
  split
  · exact List.forall_mem_nil _
  · exact sourceAt_debug _ _ _ (List.forall_mem_singleton.mpr rfl)

lemma warningsIn_missingFileWarnings (h : Host) (path? : Option Text) :
    warningsIn (missingFileWarnings h path?) = missingFileWarnings h path? := by
  refine List.filter_eq_self.mpr fun notice hmem => ?_
  obtain ⟨path, -, rfl⟩ := List.mem_map.mp hmem
  rfl

lemma warningsIn_defaults (h : Host) (program : Text) (path? : Option Text) :
    warningsIn (h.defaults program path?).notices = missingFileWarnings h path? := by
  rw [defaults_eq, warningsIn_append, warningsIn_missingFileWarnings,
    warningsIn_of_debug (plainDefaults_debug h program path?), List.append_nil]

lemma warningsIn_notices (h : Host) (program : Text) (path? : Option Text) :
    warningsIn (h.notices program path?) = missingFileWarnings h path? := by
  rw [Host.notices, Host.sources, warningsIn_noticesOf_cons, warningsIn_defaults]
  intro source hsource
  rcases List.mem_cons.mp hsource with rfl | hsource
  · exact sourceAt_debug _ _ _ (List.forall_mem_nil _)
  · rw [List.mem_singleton.mp hsource]
    exact user_debug h program

end NameKeys.Proofs
