import NameKeys.Log.Level
import NameKeys.Profile.Basic

/-!
# Settings

The settings of the program: how it logs, and which names it takes for equivalent. They are read
from tables, and every collection of settings can be written as a table again.
-/

namespace NameKeys

/-- How the program logs. A log file is rotated at a size and some rotated files are kept. -/
structure LoggingSettings where
  threshold : LogThreshold := .warning
  layout : LogLayout := .simple
  file : Option Text := none
  maxMegabytes : Int := 10
  backups : Int := 5
  deriving DecidableEq, Repr

/-- Which names are equivalent. Options may repeat; their order is kept. -/
structure NormalizationSettings where
  options : List NormalizationOption := []
  deriving DecidableEq, Repr

/-- All settings of the program. -/
structure Settings where
  logging : LoggingSettings := {}
  normalization : NormalizationSettings := {}
  deriving DecidableEq, Repr

/-- The table of the logging settings. -/
def LoggingSettings.toTable (s : LoggingSettings) : Table :=
  [("level", .text s.threshold.name), ("format", .text s.layout.name),
    ("file", match s.file with | some path => .text path | none => .null),
    ("max_file_size_mb", .int s.maxMegabytes), ("backup_count", .int s.backups)]

namespace NormalizationSettings

/-- The table of the normalization settings. -/
def toTable (s : NormalizationSettings) : Table := [("options", .list (s.options.map .option))]

/-- The profile that the options select. -/
def profile (s : NormalizationSettings) : Except ConfigurationError Profile :=
  Profile.select s.options

end NormalizationSettings

def Settings.toTable (s : Settings) : Table :=
  [("logging", .table s.logging.toTable), ("normalization", .table s.normalization.toTable)]

end NameKeys
