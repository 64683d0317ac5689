import NameKeys.Command.Outcome
import NameKeys.Proofs.AcceptedSettings
import NameKeys.Proofs.SettingPriority

/-!
# Settings that cannot be loaded

The places of settings are read in order, then the variables are taken and the result is checked. The
first place that gives no answer or whose document cannot be read decides. Variables fail exactly if
one of them addresses something that is there and is no section; no variable makes another one fail.
A run reports settings that cannot be loaded, save for the failures that this file tells apart.
-/

namespace NameKeys.Proofs
open Environment (address?)

/-! ### Failures -/

instance (fault : Toml.Fault) : Decidable (fault = .malformed) :=
  match fault with
  | .malformed => .isTrue rfl
  | .textTooShort | .listTooShort | .noEntries _ | .noKeys _ | .noAssignment _ | .keyOfList
  | .keyOfText | .noList _ | .unnamedLongValue | .escapeTooGreat | .fractionTooLong => .isFalse nofun

/-- Whether what came of reading the places makes the program fail without a report: a place gave no
answer, a document broke off its reader otherwise than by its notation, or a variable clashes with
what the documents set. -/
def FailsUnreported (environment : Environment) : Except LoadError (List Table) → Prop
  | .error (.astray _) => True
  | .error (.unreadable fault) => fault ≠ .malformed
  | .error _ => False
  | .ok tables => ∃ named ∈ environment, Clashes programName (tables.foldl Table.merge []) named

instance (environment : Environment) :
    (read : Except LoadError (List Table)) → Decidable (FailsUnreported environment read)
  | .error (.astray _) => .isTrue trivial
  | .error (.unreadable _) => inferInstanceAs (Decidable (¬ _))
  | .error (.notATable _) | .error (.invalid ..) => .isFalse id
  | .ok tables => inferInstanceAs
    (Decidable (∃ named ∈ environment, Clashes programName (tables.foldl Table.merge []) named))

/-- Whether the program fails without a report when it loads its settings. -/
def GoesUnreported (h : Host) (path? : Option Text) : Prop :=
  FailsUnreported h.environment ((findings h programName path?).mapM Finding.table)

instance (h : Host) (path? : Option Text) : Decidable (GoesUnreported h path?) :=
  inferInstanceAs (Decidable (FailsUnreported _ _))

lemma isReported_unreadable_iff (fault : Toml.Fault) :
    Invocation.isReported (.unreadable fault) = true ↔ fault = .malformed := by
  cases fault <;> simp [Invocation.isReported]

lemma isReported_iff_of_read {found : List Finding} {error : LoadError}
    (hread : found.mapM Finding.table = .error error) (environment : Environment) :
    Invocation.isReported error = true ↔ ¬ FailsUnreported environment (.error error) := by
  obtain ⟨finding, -, hfinding⟩ := exists_eq_error_of_mapM hread
  cases finding with
  | nothing => cases hfinding
  | astray stray =>
    obtain rfl : .astray stray = error := Except.error.inj hfinding
    simp [Invocation.isReported, FailsUnreported]
  | text t =>
    rw [Finding.table] at hfinding
    cases hparse : Toml.parse t with
    | ok table =>
      rw [hparse] at hfinding
      cases hfinding
    | error fault =>
      rw [hparse] at hfinding
      obtain rfl : .unreadable fault = error := Except.error.inj hfinding
      rw [isReported_unreadable_iff, FailsUnreported, not_not]

lemma isReported_iff {h : Host} {path? : Option Text} {error : LoadError}
    (hload : h.load programName .settings path? = .error error) :
    Invocation.isReported error = true ↔ ¬ GoesUnreported h path? := by
  have hmerged := merged_eq h programName path?
  unfold GoesUnreported
  cases hread : (findings h programName path?).mapM Finding.table with
  | error other =>
    rw [hread] at hmerged
    obtain rfl := Except.error.inj ((load_of_not_merged .settings hmerged).symm.trans hload)
    exact isReported_iff_of_read hread _
  | ok tables =>
    rw [hread] at hmerged
    rw [FailsUnreported, ← overrideAll_eq_error_iff (· ∈ Schema.settings.listFields)]
    cases hafter : Environment.overrideAll programName (· ∈ Schema.settings.listFields)
      h.environment (tables.foldl Table.merge []) with
    | error clash =>
      rw [load_of_merged .settings hmerged, hafter] at hload
      obtain rfl := Except.error.inj hload
      simp [Invocation.isReported]
    | ok after =>
      rw [load_settings_eq hmerged hafter] at hload
      cases hcheck : Check.settings after with
      | ok s =>
        rw [hcheck] at hload
        cases hload
      | error violations =>
        rw [hcheck] at hload
        obtain rfl := Except.error.inj hload
        simp [Invocation.isReported]

/-! ### Logging -/

/-- Logging as a run finds it: not set up, with the log files of earlier runs. -/
def foundLogging (h : Host) : Logging := { Logging.initial with files := h.logFiles }

section Logging

lemma emit_of_no_handlers {s : Logging} (h : s.handlers = []) (r : LogRecord)
    (locale : LogLocale) : (s.emit r locale).2 = s := by
  unfold Logging.emit
  rw [h]
  split
  · rfl
  · dsimp only
    split
    · rfl
    · split <;> rfl

lemma logging_foldl_add {α : Type} (recordOf : α → LogRecord) (items : List α) {j : Journal}
    (h : j.logging.handlers = []) :
    (items.foldl (fun j item => j.add (recordOf item)) j).logging = j.logging := by
  induction items generalizing j with
  | nil => rfl
  | cons item rest ih =>
    have hadd : (j.add (recordOf item)).logging = j.logging := emit_of_no_handlers h _ _
    rw [List.foldl_cons, ih (hadd ▸ h), hadd]

lemma exists_journal (invocation : Invocation) (h : Host) (now : Int) (encoding : Encoding)
    (report : LoadError → Text) :
    ∃ j : Journal, j.logging = foundLogging h ∧
      invocation.run h now encoding report =
        match h.load programName .settings invocation.configPath? with
        | .error error => Invocation.runWithout now report j error
        | .ok settings => invocation.runWith now encoding j settings :=
  ⟨_, logging_foldl_add _ _ rfl, rfl⟩

def failureLine (message : Text) : Text := "memfs-pathnorm: error: " ++ message ++ "\n"

lemma setUp_default (s : Logging) :
    s.setUp {} =
      (.ok (), { s with threshold := LogLevel.warning, handlers := [.console .simple] }) := by
  have hlevel : Logging.readLevel (.text "WARNING") = .ok LogLevel.warning := rfl
  have hlayout : Logging.readLayout (.text "simple") = .ok .simple := rfl
  rw [Logging.setUp, hlevel, hlayout]

lemma applyWith_failureRecord (locale : LogLocale) (now : Int) (message : Text) :
    (LogLayout.simple.applyWith locale (failureRecord now message [])).1 =
      .ok ("memfs-pathnorm: error: " ++ message) := by
  have hbeginning : ("memfs-pathnorm: " : Text) ++ Text.lower (LogLevel.name LogLevel.error) ++ ": " =
      "memfs-pathnorm: error: " := rfl
  change Except.ok ("memfs-pathnorm: " ++ Text.lower (LogLevel.name LogLevel.error) ++ ": " ++
    message) = _
  rw [hbeginning]

lemma console_add_failureRecord {j : Journal} (hthreshold : j.logging.threshold = LogLevel.warning)
    (hhandlers : j.logging.handlers = [.console .simple]) (now : Int) (message : Text) :
    (j.add (failureRecord now message [])).console = j.console ++ failureLine message := by
  have henabled : j.logging.isEnabled (failureRecord now message []).level = true := by
    rw [Logging.isEnabled, hthreshold]
    rfl
  have hline := applyWith_failureRecord j.locale now message
  change j.console ++ (j.logging.emit (failureRecord now message []) j.locale).1 = _
  rw [Logging.emit, henabled, hhandlers]
  simp only [Bool.not_true, Bool.false_eq_true, if_false, Logging.handleAll, Logging.handle]
  cases happly : LogLayout.simple.applyWith j.locale (failureRecord now message []) with
  | mk result r =>
    rw [happly] at hline
    obtain rfl : result = _ := hline
    simp [failureLine]

end Logging

/-! ### Runs without settings -/

section WithoutSettings

variable {h : Host} {error : LoadError}

lemma ofArguments_eq {arguments : List Text} {invocation : Invocation}
    (haccepted : Invocation.ofTexts arguments = .ok invocation) (h : Host) (now : Int)
    (encoding : Encoding) (report : LoadError → Text) :
    Outcome.ofArguments h now encoding report arguments =
      let outcome := invocation.run h now encoding report
      { outcome with console := Outcome.shown outcome.console } := by
  rw [Outcome.ofArguments, haccepted]

lemma runWithout_of_isReported (hreported : Invocation.isReported error = true) {j : Journal}
    (now : Int) (report : LoadError → Text) :
    let outcome := Invocation.runWithout now report j error
    outcome.ending = .returned ExitCode.unusable ∧ outcome.output = [] ∧
      outcome.console = j.console ++ failureLine ("Invalid configuration: " ++ report error) := by
  have hsetUp := setUp_default j.logging
  have hjournal : j.setUp {} = (.ok (), { j with logging := { j.logging with
      threshold := LogLevel.warning, handlers := [.console .simple] } }) := by
    rw [Journal.setUp, hsetUp]
  rw [Invocation.runWithout, hreported, hjournal]
  refine ⟨rfl, rfl, ?_⟩
  exact console_add_failureRecord rfl rfl now _

lemma runWithout_of_not_isReported (hreported : Invocation.isReported error = false) {j : Journal}
    (now : Int) (report : LoadError → Text) :
    let outcome := Invocation.runWithout now report j error
    outcome.ending = .failed (.loading error) ∧ outcome.output = [] := by
  rw [Invocation.runWithout, hreported]
  exact ⟨rfl, rfl⟩

/-- Settings that cannot be loaded end the program with nothing written and a line that says why, if
they do not make it fail without a report. -/
theorem unloadable_settings_are_reported {arguments : List Text} {invocation : Invocation}
    (haccepted : Invocation.ofTexts arguments = .ok invocation)
    (hload : h.load programName .settings invocation.configPath? = .error error)
    (now : Int) (encoding : Encoding) (report : LoadError → Text) :
    let outcome := Outcome.ofArguments h now encoding report arguments
    outcome.output = [] ∧
    (¬ GoesUnreported h invocation.configPath? → outcome.ending = .returned ExitCode.unusable ∧
      ∃ before, outcome.console =
        before ++ Outcome.shown (failureLine ("Invalid configuration: " ++ report error))) ∧
    (GoesUnreported h invocation.configPath? → outcome.ending = .failed (.loading error)) := by
  obtain ⟨j, -, hrun⟩ := exists_journal invocation h now encoding report
  rw [hload] at hrun
  dsimp only at hrun
  rw [ofArguments_eq haccepted, hrun]
  have hiff := isReported_iff hload
  by_cases hreported : Invocation.isReported error = true
  · obtain ⟨hending, houtput, hconsole⟩ := runWithout_of_isReported hreported (j := j) now report
    refine ⟨houtput, fun _ => ⟨hending, Outcome.shown j.console, ?_⟩,
      fun hunreported => absurd hunreported (hiff.mp hreported)⟩
    dsimp only
    rw [hconsole]
    exact List.flatMap_append
  · have hunreported : GoesUnreported h invocation.configPath? := by
      by_contra hnot
      exact hreported (hiff.mpr hnot)
    obtain ⟨hending, houtput⟩ :=
      runWithout_of_not_isReported (Bool.eq_false_iff.mpr hreported) (j := j) now report
    exact ⟨houtput, fun hnot => absurd hunreported hnot, fun _ => hending⟩

/-- A host with a file of the system, and with a variable for the level of logging. -/
def systemHost (text level : Text) : Host where
  files := [("/etc/memfs-pathnorm/config.toml", text)]
  environment := [("HOME", "/home/user"), ("MEMFS_PATHNORM_LOGGING_LEVEL", level)]
  directory := "/work"
  hasProgramData := false

def keyRun (h : Host) : Outcome := .ofArguments h 0 .plainUtf8 LoadError.message ["key", "a"]

/-- A host that refuses to look the file of the system up, whose name it finds too long. -/
def refusingSystemHost : Host :=
  { systemHost "logging = x" "DEBUG" with refusal? := fun path =>
      if path = "/etc/memfs-pathnorm/config.toml" then some "[Errno 36] File name too long" else none }

theorem unloadable_settings_of_systemHost :
    (keyRun (systemHost "logging = []" "DEBUG")).output = [] ∧
    (∃ failure, (keyRun (systemHost "logging = []" "DEBUG")).ending = .failed failure) ∧
    (keyRun refusingSystemHost).output = [] ∧
    (∃ failure, (keyRun refusingSystemHost).ending = .failed failure) ∧
    (keyRun (systemHost "logging = x" "DEBUG")).output = [] ∧
    (keyRun (systemHost "logging = x" "DEBUG")).ending = .returned ExitCode.unusable := by
  obtain ⟨invocation, haccepted, hpath⟩ :
      ∃ invocation, Invocation.ofTexts ["key", "a"] = .ok invocation ∧
        invocation.configPath? = none := by decide +kernel
  have hrun : ∀ {h : Host}, (h.load programName .settings none).toOption.isNone = true →
      (keyRun h).output = [] ∧
      (¬ GoesUnreported h none → (keyRun h).ending = .returned ExitCode.unusable) ∧
      (GoesUnreported h none → ∃ failure, (keyRun h).ending = .failed failure) := by
    intro h hload
    obtain ⟨error, herror⟩ := exists_eq_error_of_toOption hload
    rw [← hpath] at herror
    obtain ⟨houtput, hreported, hunreported⟩ :=
      unloadable_settings_are_reported haccepted herror 0 .plainUtf8 LoadError.message
    rw [hpath] at hreported hunreported
    exact ⟨houtput, fun hnot => (hreported hnot).1, fun hgoes => ⟨_, hunreported hgoes⟩⟩
  have hclash := hrun (h := systemHost "logging = []" "DEBUG") (by decide +kernel)
  have hrefused := hrun (h := refusingSystemHost) (by decide +kernel)
  have hmalformed := hrun (h := systemHost "logging = x" "DEBUG") (by decide +kernel)
  exact ⟨hclash.1, hclash.2.2 (by decide +kernel), hrefused.1, hrefused.2.2 (by decide +kernel),
    hmalformed.1, hmalformed.2.1 (by decide +kernel)⟩

instance (ending : Ending) : Decidable (∃ failure, ending = .failed failure) :=
  match ending with
  | .failed failure => .isTrue ⟨failure, rfl⟩
  | .returned _ | .stopped _ => .isFalse nofun

/-- A variable for a section that a file sets to an integer breaks the run off. -/
theorem clashing_variable_not_reported :
    (∃ error, (systemHost "logging = 1" "DEBUG").load programName .settings none = .error error) ∧
    ∃ failure, (keyRun (systemHost "logging = 1" "DEBUG")).ending = .failed failure :=
  ⟨exists_eq_error_of_toOption (by decide +kernel), by decide +kernel⟩

end WithoutSettings

end NameKeys.Proofs
