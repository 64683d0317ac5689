import NameKeys.Proofs.LoadFailures
import NameKeys.Proofs.PatternKeys
import NameKeys.Proofs.SelectedProfiles

/-!
# Runs of the command

What a run of an accepted command line comes to once there are settings and logging is set up. It
depends on nothing but the profile: the one that the options of the command line select or, without
any, the one of the settings. Under the profile it writes keys, or tells whether two keys are equal.
-/

namespace NameKeys.Proofs

/-! ### Runs with settings -/

/-- Whether a run on a host gets as far as a profile: there are settings, and logging can be set up as
they say. -/
structure Proceeds (invocation : Invocation) (h : Host) (s : Settings) : Prop where
  loaded : h.load programName .settings invocation.configPath? = .ok s
  loggingSetUp : ((foundLogging h).setUp (Logging.requestOf s.logging)).1 = .ok ()

/-- How a run ends and what it writes once it has resolved its profile or failed to. -/
def resultOf (encoding : Encoding) (task : Task) : Except OptionsError Profile → Ending × List UInt8
  | .error (.configuration _) => (.returned ExitCode.unusable, [])
  | .error error => (.failed (.options error), [])
  | .ok profile =>
    match task.perform encoding profile with
    | .ok (output, code) => (.returned code, output)
    | .error error => (.failed (.notText error), [])

/-- Whether a run refuses its options. -/
def IsRefused (outcome : Outcome) : Prop :=
  outcome.ending = .returned ExitCode.unusable ∧ outcome.output = []

/-- Whether a run breaks off without having written anything. -/
def BreaksOff (outcome : Outcome) : Prop :=
  (∃ failure, outcome.ending = .failed failure) ∧ outcome.output = []

/-- Whether a run has done a task under a profile. Names are written as the lines of their keys, and
compared by their keys; what is no name breaks a comparison off. -/
def HasDone (encoding : Encoding) (p : Profile) (outcome : Outcome) : Task → Prop
  | .key names =>
    outcome.ending = .returned ExitCode.success ∧
      outcome.output = names.flatMap fun name => encoding.keyLine (p.key name)
  | .compare (.text first) (.text second) =>
    if p.key first = p.key second then
      outcome.ending = .returned ExitCode.success ∧ outcome.output = encoding.encode "equivalent\n"
    else outcome.ending = .returned ExitCode.distinct ∧ outcome.output = encoding.encode "distinct\n"
  | .compare _ _ => BreaksOff outcome

section WithSettings

variable {arguments : List Text} {invocation : Invocation} {h : Host} {s : Settings}
  {encoding : Encoding} {outcome : Outcome} {p : Profile}

lemma runWith_eq {j : Journal}
    (hsetUp : (j.logging.setUp (Logging.requestOf s.logging)).1 = .ok ()) (now : Int) :
    let outcome := invocation.runWith now encoding j s
    (outcome.ending, outcome.output) = resultOf encoding invocation.task
      (s.normalization.resolve (.list invocation.options)) := by
  have hjournal : (j.setUp (Logging.requestOf s.logging)).1 = .ok () := hsetUp
  rw [Invocation.runWith]
  cases hset : j.setUp (Logging.requestOf s.logging) with
  | mk result after =>
    rw [hset] at hjournal
    obtain rfl : result = .ok () := hjournal
    dsimp only
    cases s.normalization.resolve (.list invocation.options) with
    | error error => cases error <;> rfl
    | ok profile =>
      dsimp only [resultOf]
      cases invocation.task.perform encoding profile <;> rfl

lemma result_of_proceeds (haccepted : Invocation.ofTexts arguments = .ok invocation)
    (hproceeds : Proceeds invocation h s) (encoding : Encoding) (now : Int)
    (report : LoadError → Text) :
    let outcome := Outcome.ofArguments h now encoding report arguments
    (outcome.ending, outcome.output) = resultOf encoding invocation.task
      (s.normalization.resolve (.list invocation.options)) := by
  obtain ⟨j, hlogging, hrun⟩ := exists_journal invocation h now encoding report
  rw [hproceeds.loaded] at hrun
  dsimp only at hrun
  rw [ofArguments_eq haccepted, hrun]
  exact runWith_eq (hlogging ▸ hproceeds.loggingSetUp) now

/-! #### Tasks -/

lemma perform_compare (first : Text) (second : Value) :
    Task.perform encoding p (.compare (.text first) second) =
      (keyAnswer p first second).map fun answer =>
        if answer then (encoding.encode "equivalent\n", ExitCode.success)
        else (encoding.encode "distinct\n", ExitCode.distinct) := by
  have hmatch : ((Pattern.compile p first).matchValue second).1 = keyAnswer p first second :=
    congrArg Prod.fst (matchValue_patternAfter p first [] second)
  change ((Pattern.compile p first).matchValue second).1.bind _ = _
  rw [hmatch]
  cases keyAnswer p first second with
  | error error => rfl
  | ok answer => cases answer <;> rfl

lemma breaksOff_of_result {failure : RunFailure}
    (hresult : (outcome.ending, outcome.output) = (.failed failure, [])) : BreaksOff outcome := by
  obtain ⟨hending, houtput⟩ := Prod.mk.inj hresult
  exact ⟨⟨failure, hending⟩, houtput⟩

lemma hasDone_of_result {task : Task}
    (hresult : (outcome.ending, outcome.output) = resultOf encoding task (.ok p)) :
    HasDone encoding p outcome task := by
  cases task with
  | key names => exact Prod.mk.inj hresult
  | compare first second =>
    cases first with
    | text first =>
      rw [resultOf, perform_compare] at hresult
      cases second with
      | text second =>
        simp only [HasDone]
        by_cases hkeys : p.key first = p.key second
        · rw [if_pos hkeys]
          simpa [keyAnswer, hkeys, Except.map] using hresult
        · rw [if_neg hkeys]
          simpa [keyAnswer, Ne.symm hkeys, Except.map] using hresult
      | _ => exact breaksOff_of_result hresult
    | _ => exact breaksOff_of_result hresult

/-! #### Profiles -/

lemma resolve_nil (n : NormalizationSettings) :
    n.resolve (.list []) = n.profile.mapError .configuration := rfl

lemma resolve_of_ne_nil (n : NormalizationSettings) {options : List Value} (h : options ≠ []) :
    n.resolve (.list options) = Profile.create (.list options) := by
  cases options with
  | nil => exact absurd rfl h
  | cons first rest => rfl

lemma exists_check_of_load {program : Text} {path? : Option Text}
    (hload : h.load program .settings path? = .ok s) :
    ∃ config, Check.settings config = .ok s := by
  unfold Host.load at hload
  cases hgather : h.gather program .settings path? with
  | error error =>
    rw [hgather] at hload
    cases hload
  | ok config =>
    rw [hgather] at hload
    exact ⟨config, mapError_eq_ok_iff.mp hload⟩

lemma profile_of_load {program : Text} {path? : Option Text}
    (hload : h.load program .settings path? = .ok s) : ∃ p, s.normalization.profile = .ok p := by
  obtain ⟨config, hcheck⟩ := exists_check_of_load hload
  exact (isConsistent_of_settings hcheck).profile

lemma result_of_fault {task : Task} {before : List Value}
    (hbefore : ∀ item ∈ before, (optionOf? item).isSome = true) {item : Value}
    (hitem : optionOf? item = none) (rest : List Value) (n : NormalizationSettings)
    (hresult : (outcome.ending, outcome.output) =
      resultOf encoding task (n.resolve (.list (before ++ item :: rest)))) :
    if item.text?.isSome then IsRefused outcome else BreaksOff outcome := by
  have hne : before ++ item :: rest ≠ [] := by simp
  rw [resolve_of_ne_nil n hne] at hresult
  cases item with
  | text name =>
    rw [create_list_of_fault hbefore (readOption_unknown hitem) rest] at hresult
    exact Prod.mk.inj hresult
  | option o => cases hitem
  | _ =>
    rw [create_list_of_fault hbefore rfl rest] at hresult
    exact breaksOff_of_result hresult

lemma result_of_options {task : Task} {options : List Value} {os : List NormalizationOption}
    (hne : os ≠ []) (hoptions : options.map optionOf? = os.map some) (n : NormalizationSettings)
    (hresult : (outcome.ending, outcome.output) =
      resultOf encoding task (n.resolve (.list options))) :
    if Contradictory os then IsRefused outcome
    else ∃ p, (∀ o, o ∈ p.options ↔ o ∈ os) ∧ HasDone encoding p outcome task := by
  have hne' : options ≠ [] := by
    rintro rfl
    exact hne (List.map_eq_nil_iff.mp hoptions.symm)
  rw [resolve_of_ne_nil n hne', create_list_of_options hoptions] at hresult
  split
  · next hcontradictory =>
    obtain ⟨error, herror⟩ := select_of_contradictory hcontradictory
    rw [herror] at hresult
    exact Prod.mk.inj hresult
  · next hnot =>
    obtain ⟨p, hp, hp'⟩ := select_of_not_contradictory hnot
    rw [hp] at hresult
    exact ⟨p, hp', hasDone_of_result hresult⟩

/-- A run that gets as far as a profile does its task under the profile of the settings or, if there
are values of option switches, under the one of exactly these options, whatever the settings are.
Options that are unknown or contradict each other are refused. -/
theorem runs_follow_selected_profile
    (haccepted : Invocation.ofTexts arguments = .ok invocation) (encoding : Encoding) :
    (∀ h s now report, Proceeds invocation h s →
      let outcome := Outcome.ofArguments h now encoding report arguments
      (invocation.options = [] →
        ∃ p, s.normalization.profile = .ok p ∧ HasDone encoding p outcome invocation.task) ∧
      (∀ os, os ≠ [] → invocation.options.map optionOf? = os.map some →
        if Contradictory os then IsRefused outcome
        else ∃ p, (∀ o, o ∈ p.options ↔ o ∈ os) ∧ HasDone encoding p outcome invocation.task) ∧
      (∀ before item rest, invocation.options = before ++ item :: rest →
        (∀ other ∈ before, (optionOf? other).isSome = true) → optionOf? item = none →
        if item.text?.isSome then IsRefused outcome else BreaksOff outcome)) ∧
    (invocation.options ≠ [] → ∀ h h' s s' now now' report report',
      Proceeds invocation h s → Proceeds invocation h' s' →
      let outcome := Outcome.ofArguments h now encoding report arguments
      let outcome' := Outcome.ofArguments h' now' encoding report' arguments
      outcome.ending = outcome'.ending ∧ outcome.output = outcome'.output) := by
  refine ⟨fun h s now report hproceeds => ?_, fun hne h h' s s' now now' report report' hproceeds
    hproceeds' => ?_⟩
  · have hresult := result_of_proceeds haccepted hproceeds encoding now report
    dsimp only at hresult ⊢
    refine ⟨fun hnil => ?_, fun os hne hos => result_of_options hne hos _ hresult,
      fun before item rest hoptions hbefore hitem => ?_⟩
    · obtain ⟨p, hp⟩ := profile_of_load hproceeds.loaded
      rw [hnil, resolve_nil, hp] at hresult
      exact ⟨p, hp, hasDone_of_result hresult⟩
    · rw [hoptions] at hresult
      exact result_of_fault hbefore hitem rest _ hresult
  · have hresult := result_of_proceeds haccepted hproceeds encoding now report
    have hresult' := result_of_proceeds haccepted hproceeds' encoding now' report'
    rw [resolve_of_ne_nil _ hne] at hresult hresult'
    exact Prod.mk.inj (hresult.trans hresult'.symm)

def optionsHost (options : Text) : Host where
  files := []
  environment := [("HOME", "/home/user"), ("MEMFS_PATHNORM_NORMALIZATION_OPTIONS", options)]
  directory := "/work"
  hasProgramData := false

lemma proceeds_optionsHost (hpath : invocation.configPath? = none) :
    Proceeds invocation (optionsHost []) {} ∧
    Proceeds invocation (optionsHost "nfc") { normalization := ⟨[.nfc]⟩ } := by
  have hsetUp : ∀ {s : Settings}, s.logging = {} → ∀ h,
      ((foundLogging h).setUp (Logging.requestOf s.logging)).1 = .ok () := by
    intro s hs h
    rw [hs]
    exact congrArg Prod.fst (setUp_default (foundLogging h))
  refine ⟨⟨?_, hsetUp rfl _⟩, ⟨?_, hsetUp rfl _⟩⟩
  · rw [hpath]
    exact eq_ok_of_toOption (by decide +kernel)
  · rw [hpath]
    exact eq_ok_of_toOption (by decide +kernel)

def givenArguments : List Text := ["-oNFD", "--opt=case-fold-ascii", "key", "Am\u00C9", "--", "-x"]

def givenRun (h : Host) : Outcome := .ofArguments h 0 .plainUtf8 LoadError.message givenArguments

theorem givenRun_follows_options : ∃ invocation, Invocation.ofTexts givenArguments = .ok invocation ∧
    (∃ p : Profile, (∀ o, o ∈ p.options ↔ o ∈ [.nfd, .caseFoldAscii]) ∧
      HasDone .plainUtf8 p (givenRun (optionsHost "nfc")) invocation.task) ∧
    (givenRun (optionsHost [])).output = (givenRun (optionsHost "nfc")).output := by
  obtain ⟨invocation, haccepted, hpath, hoptions⟩ :
      ∃ invocation, Invocation.ofTexts givenArguments = .ok invocation ∧
        invocation.configPath? = none ∧
        invocation.options.map optionOf? = [NormalizationOption.nfd, .caseFoldAscii].map some := by
    decide +kernel
  obtain ⟨hnone, hnfc⟩ := proceeds_optionsHost hpath
  obtain ⟨hruns, hsame⟩ := runs_follow_selected_profile haccepted .plainUtf8
  have hgiven := (hruns _ _ 0 LoadError.message hnfc).2.1 _ (List.cons_ne_nil _ _) hoptions
  rw [if_neg (by decide)] at hgiven
  refine ⟨invocation, haccepted, hgiven, ?_⟩
  have hne : invocation.options ≠ [] := by
    intro hnil
    rw [hnil] at hoptions
    cases hoptions
  exact (hsame hne _ _ _ _ 0 0 LoadError.message LoadError.message hnone hnfc).2

/-- A name of nothing but a double dash breaks a comparison off. -/
theorem dropped_name_breaks_off :
    (∃ invocation, Invocation.ofTexts ["compare", "a", "--", "--"] = .ok invocation ∧
      Proceeds invocation (optionsHost []) {}) ∧
    BreaksOff (.ofArguments (optionsHost []) 0 .plainUtf8 LoadError.message
      ["compare", "a", "--", "--"]) := by
  obtain ⟨invocation, haccepted, hpath⟩ :
      ∃ invocation, Invocation.ofTexts ["compare", "a", "--", "--"] = .ok invocation ∧
        invocation.configPath? = none := by decide +kernel
  refine ⟨⟨invocation, haccepted, (proceeds_optionsHost hpath).1⟩, ?_⟩
  exact ⟨by decide +kernel, by decide +kernel⟩

end WithSettings

end NameKeys.Proofs
