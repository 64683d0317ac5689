import NameKeys.Config.Check

/-!
# Kinds of settings

For each kind of settings: what it holds, the check that reads it from a table, the table that it is
written as, and which of its settings are lists. These are read off the types that its class declares.
-/

namespace NameKeys

/-! ## Types of settings -/

/-- The type that a class declares for a setting: a class, with the names of all that it derives from
and the settings that it has; a type that was made from another one; or anything else. -/
inductive FieldType where
  | ofClass (lineage : List Text) (fields : List (Text × FieldType))
  | generic (origin : Text)
  | form

namespace FieldType

/-- The name of the class that all classes of settings derive from. -/
def baseName : Text := "BaseModel"

/-- The name of the type that types of lists are made from. -/
def listName : Text := "list"

/-- The type of a section with some settings. -/
def settings (name : Text) (fields : Entries FieldType) : FieldType :=
  ofClass [name, baseName, "object"] fields

def integer : FieldType := ofClass ["int", "object"] []

def origin? : FieldType → Option Text
  | generic origin => some origin
  | ofClass _ _ | form => none

/-- The settings below a setting, if its type is a class of settings. -/
def fields? : FieldType → Option (Entries FieldType)
  | ofClass lineage fields => if baseName ∈ lineage then some fields else none
  | generic _ | form => none

end FieldType

/-- The sections and keys of a class whose settings are lists. -/
def listFieldsOf (fields : Entries FieldType) : List (Text × Text) :=
  fields.flatMap fun (sectionName, type) =>
    match type.fields? with
    | none => []
    | some inner =>
      (inner.filter fun (_, a) => a.origin? = some FieldType.listName).map fun (key, _) =>
        (sectionName, key)

namespace Schema

abbrev Content : Schema → Type
  | settings => Settings
  | logging => LoggingSettings
  | normalization => NormalizationSettings

def check : (schema : Schema) → Table → Checked schema.Content
  | settings => Check.settings
  | logging => Check.logging
  | normalization => Check.normalization

def toTable : (schema : Schema) → schema.Content → Table
  | settings => Settings.toTable
  | logging => LoggingSettings.toTable
  | normalization => NormalizationSettings.toTable

def loggingTypes : Entries FieldType :=
  [("level", .generic "Literal"), ("format", .generic "Literal"), ("file", .generic "UnionType"),
    ("max_file_size_mb", .integer), ("backup_count", .integer)]

def normalizationTypes : Entries FieldType := [("options", .generic FieldType.listName)]

/-- The types of the settings of a kind. -/
def fieldTypes : Schema → Entries FieldType
  | settings =>
    [("logging", .settings logging.title loggingTypes),
      ("normalization", .settings normalization.title normalizationTypes)]
  | logging => loggingTypes
  | normalization => normalizationTypes

/-- The sections and keys whose settings are lists. Only a kind with sections has any. -/
def listFields (schema : Schema) : List (Text × Text) := listFieldsOf schema.fieldTypes

end Schema

end NameKeys
