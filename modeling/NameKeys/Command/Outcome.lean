import NameKeys.Command.Help
import NameKeys.Command.Invocation
import NameKeys.Command.KeyLine
import NameKeys.Config.Report
import NameKeys.Log.Logging
import NameKeys.Matching.Pattern
import NameKeys.Profile.Report

/-!
# Outcomes

What a run of the program comes to: how it ends, what it writes and what it logs. The settings are
loaded, logging is set up as they say, a profile is selected, and the task is done under the
profile.
-/

namespace NameKeys

/-- Why a run ends without having reported it. -/
inductive RunFailure where
  | loading (error : LoadError)
  | logging (fault : LoggingFault)
  | options (error : OptionsError)
  | notText (error : NotText)

def RunFailure.message : RunFailure → Text
  | loading error => error.message
  | logging fault => fault.message
  | options error => error.message
  | notText error => error.message

/-- How a run ends: with a code of the command, with one for the use of the command line, or with a
failure. -/
inductive Ending where
  | returned (code : Nat)
  | stopped (code : Nat)
  | failed (failure : RunFailure)

/-- What a run comes to. -/
structure Outcome where
  ending : Ending
  output : List UInt8
  console : Text
  logFiles : List (Text × Text)
  loadError? : Option LoadError

namespace ExitCode

/-- The code for equivalent names and for keys that were written. -/
def success : Nat := 0
/-- The code for names that are not equivalent. -/
def distinct : Nat := 1
/-- The code for settings, options or a command line that cannot be used. -/
def unusable : Nat := 2

end ExitCode

/-- The profile that options select, or that the settings select where no options are given. -/
def NormalizationSettings.resolve (s : NormalizationSettings) (overrides : Value) :
    Except OptionsError Profile :=
  if overrides.isSomething then Profile.create overrides else s.profile.mapError .configuration

/-- What a task writes under a profile, and the code it ends with. -/
def Task.perform (encoding : Encoding) (profile : Profile) :
    Task → Except NotText (List UInt8 × Nat)
  | .key names => .ok (encoding.keyLines profile names, ExitCode.success)
  | .compare first second => do
    let name ← first.toName
    if ← ((Pattern.compile profile name).matchValue second).1 then
      return (encoding.encode "equivalent\n", ExitCode.success)
    else return (encoding.encode "distinct\n", ExitCode.distinct)

/-- What was logged and shown on the console so far. -/
structure Journal where
  locale : LogLocale
  console : Text
  logging : Logging

namespace Journal

/-- The journal of a host before logging is set up, with the log files of earlier runs. -/
def before (h : Host) : Journal :=
  ⟨{ zone := h.zone }, [], { Logging.initial with files := h.logFiles }⟩

def add (j : Journal) (r : LogRecord) : Journal :=
  let (shown, logging) := j.logging.emit r j.locale
  { j with console := j.console ++ shown, logging }

def setUp (j : Journal) (request : LoggingRequest) : Except LoggingFault Unit × Journal :=
  let (result, logging) := j.logging.setUp request
  (result, { j with logging })

/-- The outcome of a run that ends with this journal. -/
def close (j : Journal) (ending : Ending) (output : List UInt8) : Outcome :=
  ⟨ending, output, j.console, j.logging.files, none⟩

end Journal

def ownRecord (now : Int) (moduleName : Text) (function? : Option Text) (notice : Notice)
    (context : Table) : LogRecord :=
  LogRecord.make notice.level notice.message ("memfs_pathnorm." ++ moduleName) moduleName function?
    0 (Binary64.ofInt now) none (.value (.table context))

/-- The record of a failure that ends the program. -/
def failureRecord (now : Int) (message : Text) (context : Table) : LogRecord :=
  ownRecord now "cli" (some "main") ⟨LogLevel.error, message⟩ context

/-- The record of a profile that is going to be used. -/
def profileRecord (now : Int) (profile : Profile) : LogRecord :=
  let label : Table := [("profile", .text profile.label)]
  ownRecord now "normalizer" (some "__init__")
    ⟨LogLevel.debug, "Path normalizer created: " ++ (Value.table label).literal⟩ []

namespace Invocation

/-- Whether an error of loading settings is reported: a malformed file and invalid settings are, and
at any other error the run fails. -/
def isReported : LoadError → Bool
  | .unreadable .malformed | .invalid _ _ => true
  | _ => false

/-- The run of an invocation whose settings cannot be loaded. What `report` tells about an error
that is reported is logged. -/
def runWithout (now : Int) (report : LoadError → Text) (j : Journal) (error : LoadError) :
    Outcome :=
  let outcome : Outcome :=
    if isReported error then
      let (_, j) := j.setUp {}
      let message : Text := "Invalid configuration: " ++ report error
      (j.add (failureRecord now message [])).close (.returned ExitCode.unusable) []
    else j.close (.failed (.loading error)) []
  { outcome with loadError? := some error }

/-- The run of an invocation with settings. -/
def runWith (invocation : Invocation) (now : Int) (encoding : Encoding) (j : Journal)
    (settings : Settings) : Outcome :=
  match j.setUp (Logging.requestOf settings.logging) with
  | (.error fault, j) => j.close (.failed (.logging fault)) []
  | (.ok (), j) =>
    match settings.normalization.resolve (.list invocation.options) with
    | .error (.configuration error) =>
      let message : Text := "Invalid normalization options: " ++ error.message
      (j.add (failureRecord now message error.context)).close (.returned ExitCode.unusable) []
    | .error error => j.close (.failed (.options error)) []
    | .ok profile =>
      let j := j.add (profileRecord now profile)
      match invocation.task.perform encoding profile with
      | .ok (output, code) => j.close (.returned code) output
      | .error error => j.close (.failed (.notText error)) []

/-- The request for logging that the settings of an invocation make. -/
def loggingRequest? (invocation : Invocation) (h : Host) : Option LoggingRequest :=
  match h.load programName .settings invocation.configPath? with
  | .error _ => none
  | .ok settings => some (Logging.requestOf settings.logging)

def run (invocation : Invocation) (h : Host) (now : Int) (encoding : Encoding)
    (report : LoadError → Text) : Outcome :=
  let notices := h.notices programName invocation.configPath?
  let journal := Journal.before h
  let j := notices.foldl (fun j notice => j.add (ownRecord now "config" none notice [])) journal
  match h.load programName .settings invocation.configPath? with
  | .error error => runWithout now report j error
  | .ok settings => invocation.runWith now encoding j settings

end Invocation

namespace Stop

/-- The outcome of a command line that asks for help or is wrong, with so many columns for texts. -/
def outcome (encoding : Encoding) (width : Nat) : Stop → Outcome
  | help g => ⟨.stopped ExitCode.success, encoding.encode (g.help width), [], [], none⟩
  | misuse g error =>
    let report : Text := g.usage width ++ g.program ++ ": error: " ++ error.message ++ "\n"
    ⟨.stopped ExitCode.unusable, [], report, [], none⟩

end Stop

namespace Outcome

/-- What the console shows of a text: surrogates appear as escapes. -/
def shown (t : Text) : Text :=
  t.flatMap fun c => if c.isSurrogate then "\\u" ++ Text.hex 4 c.val else [c]

/-- The outcome of running the program with some arguments on a host, at a time in seconds. -/
def ofArguments (h : Host) (now : Int) (encoding : Encoding) (report : LoadError → Text)
    (arguments : List Text) : Outcome :=
  let outcome : Outcome :=
    match Invocation.ofTexts arguments with
    | .ok invocation => invocation.run h now encoding report
    | .error stop => stop.outcome encoding h.environment.pageWidth
  { outcome with console := shown outcome.console }

end Outcome

end NameKeys
