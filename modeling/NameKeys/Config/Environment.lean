import NameKeys.Text.Integer
import NameKeys.Value.Merge
import NameKeys.Value.Text

/-!
# Settings in the environment

An environment variable overrides one setting. Its name is the program's name in upper case, a
section and a key, with underscores between; its text is converted to a truth value or an integer if
it is one, and for a setting that is a list it is split at commas.
-/

namespace NameKeys

/-- Environment variables in order, each name once. -/
abbrev Environment := List (Text × Text)

namespace Environment

def get? (environment : Environment) (name : Text) : Option Text := List.lookup name environment

/-- The environment with a variable set. -/
def set (environment : Environment) (name value : Text) : Environment :=
  match environment with
  | [] => [(name, value)]
  | (n, v) :: rest => if n = name then (n, value) :: rest else (n, v) :: set rest name value

/-- The environment of texts with a name, an equality sign and a value. Of a name that is repeated
the first counts, and a text without the sign sets nothing. -/
def ofTexts (texts : List Text) : Environment :=
  texts.foldl (fun environment t =>
    match Text.cutAt '=' t with
    | (name, some value) =>
      if (environment.get? name).isSome then environment else environment ++ [(name, value)]
    | (_, none) => environment) []

/-- How the names of the variables of a program begin. -/
def prefixOf (program : Text) : Text := Text.replace '-' '_' (Text.upper program) ++ "_"

/-- The section and the key that a variable addresses, if it addresses one. -/
def address? (program name : Text) : Option (Text × Text) :=
  match Text.afterPrefix? (prefixOf program) name with
  | none => none
  | some rest =>
    match Text.cutAt '_' (Text.lower rest) with
    | (sectionName, some key) => some (sectionName, key)
    | (_, none) => none

/-- The items of a text with commas between them, without the blanks around them and without empty
ones. -/
def items (t : Text) : List Text :=
  ((Text.splitOn ',' t).map Text.strip).filter fun item => !item.isEmpty

/-- The value of a text: a truth value, an integer or the text itself. -/
def scalar (t : Text) : Value :=
  if Text.lower t = "true" ∨ Text.lower t = "yes" then .bool true
  else if Text.lower t = "false" ∨ Text.lower t = "no" then .bool false
  else
    match Text.toInt? t with
    | some n => .int n
    | none => .text t

def convert (asList : Bool) (t : Text) : Value := if asList then .ofTexts (items t) else scalar t

/-- The value of bytes in place of a text: an integer or the bytes themselves. -/
def scalarOfBytes (bytes : List UInt8) : Value :=
  let t : Text := bytes.map fun b => CodePoint.ofNat b.toNat
  match if t.all CodePoint.isAscii then Text.toInt? t else none with
  | some n => .int n
  | none => .bytes bytes

/-- The value of what stands in place of a variable's text. -/
def convertValue (asList : Bool) : Value → Except TextFault Value
  | .text t => .ok (convert asList t)
  | .bytes bs => if asList then .error (.takesBytes "str") else .ok (scalarOfBytes bs)
  | value => .error (.lacks value (if asList then "split" else "lower"))

/-- A section that cannot take a key, because it is not a table. -/
structure NotATable where
  value : Value

/-- The message about a section that is not a table. -/
def NotATable.message : NotATable → Text
  | ⟨.list _⟩ => "list indices must be integers or slices, not str"
  | ⟨value⟩ => "'" ++ value.typeName ++ "' object does not support item assignment"

/-- The table with a value at a key of a section, which is made if there is none. -/
def assign (sectionName key : Text) (value : Value) (config : Table) : Except NotATable Table :=
  match config.get? sectionName with
  | none => .ok (config.put sectionName (.table [(key, value)]))
  | some (.table entries) => .ok (config.put sectionName (.table (Entries.put key value entries)))
  | some other => .error ⟨other⟩

/-- The table with one variable's setting in it. -/
def override (program : Text) (isList : Text × Text → Bool) (config : Table)
    (setting : Text × Text) : Except NotATable Table :=
  match address? program setting.1 with
  | none => .ok config
  | some (sectionName, key) =>
    assign sectionName key (convert (isList (sectionName, key)) setting.2) config

/-- The table with the settings of all variables in it. -/
def overrideAll (program : Text) (isList : Text × Text → Bool) (environment : Environment)
    (config : Table) : Except NotATable Table :=
  environment.foldlM (override program isList) config

end Environment

end NameKeys
