import NameKeys.Config.Load

/-!
# Reports on settings

What is told about settings that cannot be loaded. For invalid settings every violation is listed
with the way to the setting that has it.
-/

namespace NameKeys

def Step.shown : Step → Text
  | .key name => name
  | .item index => Text.ofNat index

/-- The lines about a violation. A violation of the settings as a whole has no way to show. -/
def Violation.lines (v : Violation) : List Text :=
  let way := if v.path.isEmpty then [] else [Text.join "." (v.path.map Step.shown)]
  way ++ ["  " ++ v.fault.message ++ " [type=" ++ v.fault.code ++ "]"]

def Schema.report (schema : Schema) (violations : List Violation) : Text :=
  let errors : Text :=
    if violations.length = 1 then " validation error for " else " validation errors for "
  Text.join "\n"
    ((Text.ofNat violations.length ++ errors ++ schema.title) :: violations.flatMap Violation.lines)

/-- The message about settings that cannot be loaded. -/
def LoadError.message : LoadError → Text
  | unreadable fault => fault.message
  | astray error => astrayMessage error
  | notATable error => error.message
  | invalid schema violations => schema.report violations

end NameKeys
