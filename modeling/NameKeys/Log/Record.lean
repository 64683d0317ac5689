import NameKeys.Log.Instant
import NameKeys.Log.Level
import NameKeys.Text.FilePath
import NameKeys.Value.Datum

/-!
# Log records

A message with all that is logged about it: its level, where and when it was logged, the error it is
about and a context of further data. What a record was given may fail to be told: arguments may not
fit the message, and an error may have no text.
-/

namespace NameKeys

/-- What is told about an error: the name of its class, what it says and its report. Each of them is
a text, or fails for the reason that is given. -/
structure ErrorInfo where
  kind : Except Text Text
  text : Except Text Text
  report : Except Text Text

namespace ErrorInfo

/-- What is told about the error where there is none, but a record is to carry one. -/
def empty : ErrorInfo where
  kind := .error "'NoneType' object has no attribute '__name__'"
  text := .ok "None"
  report := .ok "NoneType: None"

/-- The last line of the report on an error of a class. -/
def lastLine (name text : Text) : Text := if text.isEmpty then name else name ++ ": " ++ text

end ErrorInfo

/-- A kind of error that the program and its callers log. -/
inductive ErrorType where
  | value
  | key
  | system
  | configuration
  | general
  deriving DecidableEq, Repr

namespace ErrorType

def name : ErrorType → Text
  | value => "ValueError"
  | key => "KeyError"
  | system => "OSError"
  | configuration => "ConfigurationError"
  | general => "PathNormError"

/-- The name with the module that the kind is defined in, if it is one of the program's own. -/
def fullName : ErrorType → Text
  | configuration => "memfs_pathnorm.errors." ++ configuration.name
  | general => "memfs_pathnorm.errors." ++ general.name
  | type => type.name

end ErrorType

/-- An error of such a kind that was not raised, with or without a message, which may be any value.
-/
structure LoggedError where
  type : ErrorType
  message? : Option Value

namespace LoggedError

/-- What an error says: its message, as a literal for a missing key. -/
def text (e : LoggedError) : Except Text Text :=
  match e.message? with
  | none => .ok []
  | some message =>
    if !message.hasLiteral then .error tooManyDigits
    else .ok (if e.type = .key then message.literal else message.display)

/-- What is told about an error. Its report does without a text that fails. -/
def info (e : LoggedError) : ErrorInfo where
  kind := .ok e.type.name
  text := e.text
  report := .ok (ErrorInfo.lastLine e.type.fullName
    (e.text.toOption.getD "<exception str() failed>"))

instance : Coe LoggedError ErrorInfo := ⟨info⟩

end LoggedError

/-- The context of a record: data under texts, or some value in place of them. -/
inductive Context where
  | data (entries : Entries Datum)
  | value (v : Value)

instance : Coe Value Context := ⟨.value⟩

/-- A message and what is logged about it. `filled` is the message with its arguments filled in, or
why they do not fit. `levelName`, `message`, `time` and `report?` are working space of the layouts:
how the level is written, and what they wrote last of the message, the time and the error. `stack?`
tells the calls that led to the message, where these were asked for. -/
structure LogRecord where
  level : Int
  filled : Except Text Text
  logger : Text
  moduleName : Text
  function? : Option Text
  line : Int
  created : Binary64
  error? : Option ErrorInfo
  context : Context
  levelName : Text
  message : Text := []
  time : Text := []
  report? : Option Text := none
  stack? : Option Text := none

namespace LogRecord

/-- A record as it is when the message is logged. -/
def make (level : Int) (message logger path : Text) (function? : Option Text) (line : Int)
    (created : Binary64) (error? : Option ErrorInfo) (context : Context) : LogRecord :=
  { level, logger, function?, line, created, error?, context
    filled := .ok message
    moduleName := FilePath.stem (FilePath.fileName path)
    levelName := LogLevel.name level }

/-- The record with a message left on it. -/
def setMessage (message : Text) (r : LogRecord) : LogRecord := { r with message }

/-- The record with a time left on it, if one was made. -/
def setTime (time? : Option Text) (r : LogRecord) : LogRecord :=
  { r with time := time?.getD r.time }

/-- The record with a report left on it, if one was made. -/
def setReport (report? : Option Text) (r : LogRecord) : LogRecord := { r with report? }

def setContext (context : Context) (r : LogRecord) : LogRecord := { r with context }

/-- The record with its level written in another way. -/
def setLevelName (levelName : Text) (r : LogRecord) : LogRecord := { r with levelName }

end LogRecord

end NameKeys
