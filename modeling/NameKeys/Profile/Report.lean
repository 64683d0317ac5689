import NameKeys.Profile.Basic

/-!
# Error reports

An error as it is handed to whoever reports it: its message and its context, whatever they are. The
context is given by name beside the message, so it can neither replace the message nor the report
itself.
-/

namespace NameKeys

/-- Whether an error is about options or any other error of the program. -/
inductive ErrorClass where
  | general
  | configuration
  deriving DecidableEq, Repr

/-- A message, which may be any value, with a context. -/
structure ErrorReport where
  kind : ErrorClass
  message : Value
  context : Table

/-- A context key that is taken. -/
structure TakenKey where
  key : Text

namespace ErrorReport

/-- The context keys that would stand for something else. -/
def takenKeys : List Text := ["self", "message"]

/-- The report with this message and context. -/
def make (kind : ErrorClass) (message : Value) (context : Table) : Except TakenKey ErrorReport :=
  match context.keys.find? (· ∈ takenKeys) with
  | some key => .error ⟨key⟩
  | none => .ok ⟨kind, message, context⟩

def shown (r : ErrorReport) : Text := r.message.display

end ErrorReport

/-- The report of a configuration error. -/
def ConfigurationError.report (e : ConfigurationError) : ErrorReport :=
  ⟨.configuration, .text e.message, e.context⟩

/-- The message about a context key that is taken. -/
def TakenKey.message (e : TakenKey) : Text :=
  "PathNormError.__init__() got multiple values for argument '" ++ e.key ++ "'"

/-- The message about options that could not be read. -/
def OptionsError.message : OptionsError → Text
  | configuration e => e.message
  | notAName (.bytes _) => "a bytes-like object is required, not 'str'"
  | notAName value => "'" ++ value.typeName ++ "' object has no attribute 'strip'"
  | notIterable value => "'" ++ value.typeName ++ "' object is not iterable"
  | numeralTooLong => tooManyDigits

end NameKeys
