import NameKeys.Config.Settings

/-!
# Violations

What can be wrong with a setting, and where it stands. Checking settings collects every violation
and not only the first.
-/

namespace NameKeys

/-- One step on the way to a setting. -/
inductive Step where
  | key (key : Text)
  | item (index : Nat)
  deriving DecidableEq, Repr

/-- A kind of settings. -/
inductive Schema where
  | settings
  | logging
  | normalization
  deriving DecidableEq, Repr

def Schema.title : Schema → Text
  | settings => "PathNormConfig"
  | logging => "LoggingConfig"
  | normalization => "NormalizationConfig"

/-- What is wrong with a setting. -/
inductive Fault where
  | unknownKey
  | notASection (schema : Schema)
  | notALevel
  | notALayout
  | notAString
  | notUnicode
  | notAnInteger
  | notANumeral
  | fraction
  | notFinite
  | tooLarge
  | tooSmall (least : Int)
  | notAList
  | notAnOption
  | badOptions (error : ConfigurationError)

namespace Fault

/-- The names in quotes, with commas between them and "or" before the last. -/
def alternatives (names : List Text) : Text :=
  let quoted := names.map Text.quoted
  Text.join ", " quoted.dropLast ++ " or " ++ quoted.getLastD []

def code : Fault → Text
  | unknownKey => "extra_forbidden"
  | notASection _ => "model_type"
  | notALevel => "literal_error"
  | notALayout => "literal_error"
  | notAString => "string_type"
  | notUnicode => "string_unicode"
  | notAnInteger => "int_type"
  | notANumeral => "int_parsing"
  | fraction => "int_from_float"
  | notFinite => "finite_number"
  | tooLarge => "int_parsing_size"
  | tooSmall _ => "greater_than_equal"
  | notAList => "list_type"
  | notAnOption => "enum"
  | badOptions _ => "value_error"

def message : Fault → Text
  | unknownKey => "Extra inputs are not permitted"
  | notASection schema => "Input should be a valid dictionary or instance of " ++ schema.title
  | notALevel => "Input should be " ++ alternatives (LogThreshold.all.map (·.name))
  | notALayout => "Input should be " ++ alternatives (LogLayout.all.map (·.name))
  | notAString => "Input should be a valid string"
  | notUnicode =>
    "Input should be a valid string, unable to parse raw data as a unicode string"
  | notAnInteger => "Input should be a valid integer"
  | notANumeral => "Input should be a valid integer, unable to parse string as an integer"
  | fraction => "Input should be a valid integer, got a number with a fractional part"
  | notFinite => "Input should be a finite number"
  | tooLarge => "Unable to parse input string as an integer, exceeded maximum size"
  | tooSmall least => "Input should be greater than or equal to " ++ Text.ofInt least
  | notAList => "Input should be a valid list"
  | notAnOption => "Input should be " ++ alternatives (NormalizationOption.all.map (·.name))
  | badOptions error => "Value error, " ++ error.message

end Fault

/-- A fault and the way to the setting that has it. -/
structure Violation where
  path : List Step
  fault : Fault

/-- The violation seen from outside the section it is in. -/
def Violation.within (key : Text) (v : Violation) : Violation :=
  { v with path := .key key :: v.path }

/-- What was read, or everything that is wrong with it. -/
abbrev Checked (α : Type) := Except (List Violation) α

def Checked.violations {α : Type} : Checked α → List Violation
  | .ok _ => []
  | .error violations => violations

end NameKeys
