import NameKeys.Command.Arguments
import NameKeys.Value.Basic

/-!
# Invocations

What a command line asks for: the options to use instead of the configured ones, a file with
settings and a task. The program's own grammar finds the command, the command's grammar the names;
arguments that neither has a place for are refused at the end.
-/

namespace NameKeys

/-- What the program is asked to do: to write the keys of names, or to compare two names. A name to
compare is a text, or an empty list where nothing but a double dash stood in its place. -/
inductive Task where
  | key (names : List Text)
  | compare (first second : Value)

/-- What a command line asks for. An option is a text, or an empty list where its switch is given
none. -/
structure Invocation where
  options : List Value
  configPath? : Option Text
  task : Task

namespace Invocation

/-- The one argument that fills a slot. -/
def single : List Text → Value
  | [text] => .text text
  | texts => .ofTexts texts

/-- The task of a command whose slots are filled. -/
def taskOf (command : Command) (filled : List (List Text)) : Task :=
  match command with
  | .key => .key filled.flatten
  | .compare => .compare (single (filled.headD [])) (single (filled.tail.headD []))

/-- The values of a switch in a list of switches and values. -/
def valuesOf (s : Switch) (values : List (Switch × Option Text)) : List (Option Text) :=
  (values.filter (·.1 = s)).map (·.2)

def optionOf : Option Text → Value
  | some text => .text text
  | none => .list []

/-- What some arguments ask for. Of several files the last one counts. -/
def ofTexts (texts : List Text) : Except Stop Invocation := do
  let own ← Arguments.read .main texts
  let (name, others) := (own.filled.flatten.headD [], own.filled.flatten.tail)
  match Command.all.find? (·.name = name) with
  | none => throw (.misuse .main (.unknownCommand name))
  | some command =>
    let inner ← Arguments.read (.ofCommand command) others
    let extra := own.extra ++ inner.extra
    if extra.isEmpty then
      return {
        options := (valuesOf .option own.values).map optionOf
        configPath? := (valuesOf .config own.values).getLast?.join
        task := taskOf command inner.filled }
    else throw (.misuse .main (.unrecognized extra))

end Invocation

end NameKeys
