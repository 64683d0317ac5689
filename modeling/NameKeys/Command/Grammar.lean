import NameKeys.Profile.Option
import NameKeys.Text.Quoted

/-!
# Grammars of command lines

What a command line may hold: switches, some of which take a value, and slots for the other
arguments, which are filled in order. The program has a grammar of its own and one for each of its
commands.
-/

namespace NameKeys

def programName : Text := "memfs-pathnorm"

/-- A switch of a command line. -/
inductive Switch where
  | help
  | option
  | config
  deriving DecidableEq, Repr

namespace Switch

def spellings : Switch → List Text
  | help => ["-h", "--help"]
  | option => ["-o", "--option"]
  | config => ["--config"]

/-- What stands for the value of a switch that takes one. -/
def valueLabel? : Switch → Option Text
  | help => none
  | option => some "OPTION"
  | config => some "CONFIG"

/-- Whether a switch takes a value. A switch that takes none asks for help. -/
def takesValue (s : Switch) : Bool := s.valueLabel?.isSome

def purpose : Switch → Text
  | help => "show this help message and exit"
  | option =>
    "Normalization option, repeatable (overrides config). One of: " ++
      Text.join ", " (NormalizationOption.all.map (·.name))
  | config => "Path to config file (defaults.toml)"

def label (s : Switch) : Text := Text.join "/" s.spellings

end Switch

/-- A place for arguments that are no switches: one argument, one or more of them, or the name of a
command with everything that follows it. -/
inductive Slot where
  | one (label : Text)
  | many (label : Text)
  | command (label : Text)
  deriving DecidableEq, Repr

def Slot.label : Slot → Text
  | one label | many label | command label => label

/-- A command of the program. -/
inductive Command where
  | key
  | compare
  deriving DecidableEq, Repr

namespace Command

def all : List Command := [key, compare]

def name : Command → Text
  | key => "key"
  | compare => "compare"

def purpose : Command → Text
  | key => "Print the comparison key of each name"
  | compare => "Check whether two names are equivalent"

end Command

/-- The switches and the slots of a command line, and what the program is good for where the command
line is the program's own. -/
structure Grammar where
  program : Text
  purpose? : Option Text
  switches : List Switch
  slots : List Slot

namespace Grammar

/-- The grammar of the program's own arguments. -/
def main : Grammar :=
  { program := programName
    purpose? :=
      some "Compute path-name keys and compare names under a normalization profile"
    switches := [.help, .option, .config]
    slots := [.command "command"] }

/-- The grammar of a command's arguments. -/
def ofCommand (command : Command) : Grammar :=
  { program := programName ++ " " ++ command.name
    purpose? := none
    switches := [.help]
    slots :=
      match command with
      | .key => [.many "NAME"]
      | .compare => [.one "FIRST", .one "SECOND"] }

def spellings (g : Grammar) : List (Text × Switch) :=
  g.switches.flatMap fun s => s.spellings.map (·, s)

end Grammar

/-- What is wrong with a command line. -/
inductive UsageError where
  | ambiguous (argument : Text) (spellings : List Text)
  | missingValue (switch : Switch)
  | ignoredValue (switch : Switch) (value : Text)
  | unknownCommand (name : Text)
  | missing (labels : List Text)
  | unrecognized (arguments : List Text)

def UsageError.message : UsageError → Text
  | ambiguous argument spellings =>
    "ambiguous option: " ++ argument ++ " could match " ++ Text.join ", " spellings
  | missingValue switch => "argument " ++ switch.label ++ ": expected one argument"
  | ignoredValue switch value =>
    "argument " ++ switch.label ++ ": ignored explicit argument " ++ Text.quoted value
  | unknownCommand name =>
    "argument command: invalid choice: " ++ Text.quoted name ++ " (choose from " ++
      Text.join ", " (Command.all.map fun command => Text.quoted command.name) ++ ")"
  | missing labels => "the following arguments are required: " ++ Text.join ", " labels
  | unrecognized arguments => "unrecognized arguments: " ++ Text.join " " arguments

end NameKeys
