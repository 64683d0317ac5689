import NameKeys.Text.Numeral

/-!
# Log levels

A message has a numeric level. Some levels have names; a threshold for messages and a layout for the
console are chosen by name.
-/

namespace NameKeys

namespace LogLevel

def debug : Int := 10
/-- The level of messages about normal operation. -/
def info : Int := 20
/-- The level of messages about something unexpected. -/
def warning : Int := 30
/-- The level of messages about a failure. -/
def error : Int := 40
/-- The level of messages about a failure that ends the program. -/
def critical : Int := 50

/-- The name of a level, made from the number if the level has none of its own. -/
def name (level : Int) : Text :=
  if level = critical then "CRITICAL"
  else if level = error then "ERROR"
  else if level = warning then "WARNING"
  else if level = info then "INFO"
  else if level = debug then "DEBUG"
  else if level = 0 then "NOTSET"
  else "Level " ++ Text.ofInt level

/-- The upper-case names that stand for a level, some of them for the same. -/
def named : List (Text × Int) :=
  [("CRITICAL", critical), ("FATAL", critical), ("ERROR", error), ("WARNING", warning),
    ("WARN", warning), ("INFO", info), ("DEBUG", debug), ("NOTSET", 0)]

end LogLevel

/-- From which level on messages are logged. -/
inductive LogThreshold where
  | debug
  | info
  | warning
  | error
  deriving DecidableEq, Repr

namespace LogThreshold

/-- The thresholds in increasing order. -/
def all : List LogThreshold := [debug, info, warning, error]

def name : LogThreshold → Text
  | debug => "DEBUG"
  | info => "INFO"
  | warning => "WARNING"
  | error => "ERROR"

end LogThreshold

/-- How a message is laid out on the console. -/
inductive LogLayout where
  | simple
  | detailed
  | json
  deriving DecidableEq, Repr

namespace LogLayout

/-- The layouts in the order in which they are listed. -/
def all : List LogLayout := [simple, detailed, json]

def name : LogLayout → Text
  | simple => "simple"
  | detailed => "detailed"
  | json => "json"

end LogLayout

end NameKeys
