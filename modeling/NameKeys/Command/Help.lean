import NameKeys.Command.Grammar
import NameKeys.Config.Environment
import NameKeys.Text.Lines

/-!
# Help

How the use of a command line is shown, and its page of help, both set for a number of columns. The
use shows the switches and then the slots. The page describes them: what is said about an entry
stands beside its label, or below it where the label takes too much room.
-/

namespace NameKeys

def blanks (n : Nat) : Text := List.replicate n Lines.blank

/-! ## Labels -/

/-- A spelling of a switch with what stands for its value. -/
def Switch.withValue (s : Switch) (spelling : Text) : Text :=
  match s.valueLabel? with
  | none => spelling
  | some label => spelling ++ " " ++ label

def Switch.shown (s : Switch) : Text := "[" ++ s.withValue (s.spellings.headD []) ++ "]"

/-- The names of the commands as alternatives. -/
def Command.alternatives : Text := "\x7b" ++ Text.join "," (Command.all.map (·.name)) ++ "\x7d"

/-- How the use shows a slot, in pieces that are not divided. -/
def Slot.shown : Slot → List Text
  | one label => [label]
  | many label => [label, "[" ++ label ++ " ...]"]
  | command _ => [Command.alternatives, "..."]

/-! ## Use -/

namespace Grammar

/-- Parts in rows that end before a column, with blanks between the parts. The row being filled ends
at `column`, and further rows begin at `indent`. -/
def rows (width indent : Nat) : (column : Nat) → (row : List Text) → List Text → List Text
  | _, [], [] => []
  | _, row, [] => [Text.join " " row]
  | column, row, part :: rest =>
    if width < column + part.length ∧ row ≠ [] then
      Text.join " " row :: rows width indent (indent + part.length + 1) [part] rest
    else rows width indent (column + part.length + 1) (row ++ [part]) rest

/-- What the line that shows the use begins with. -/
def lead : Text := "usage: "

/-- The use of a command line, with so many columns to show it in. Where it takes more than one row,
the slots have rows of their own, and they begin behind the name of the program if it is short. -/
def usage (g : Grammar) (width : Nat) : Text :=
  let switches := g.switches.map (·.shown)
  let slots := g.slots.flatMap (·.shown)
  let line := Text.join " " (g.program :: switches ++ slots)
  let start := lead.length + g.program.length
  let indented (indent : Nat) (parts : List Text) : List Text :=
    (rows width indent indent [] parts).map (blanks indent ++ ·)
  let lines :=
    if lead.length + line.length ≤ width then [line]
    else if 4 * start ≤ 3 * width then
      match rows width (start + 1) lead.length [] (g.program :: switches) with
      | [] => indented (start + 1) slots
      | first :: others =>
        first :: others.map (blanks (start + 1) ++ ·) ++ indented (start + 1) slots
    else
      match indented lead.length (switches ++ slots) with
      | [row] => [g.program, row]
      | _ => g.program :: indented lead.length switches ++ indented lead.length slots
  lead ++ Text.join "\n" lines ++ "\n"

end Grammar

/-! ## The page -/

/-- An entry on a page of help: where it begins, its label and what is said about it. -/
structure HelpEntry where
  indent : Nat
  label : Text
  purpose? : Option Text

namespace HelpEntry

/-- The lines of an entry. What is said about it begins at a column. -/
def lines (width column : Nat) (entry : HelpEntry) : List Text :=
  let label := blanks entry.indent ++ entry.label
  match entry.purpose? with
  | none => [label]
  | some purpose =>
    match Text.inLines (max (width - column) 11) purpose with
    | [] => [label]
    | first :: others =>
      let others := others.map (blanks column ++ ·)
      if label.length + 2 ≤ column then
        (label ++ blanks (column - label.length) ++ first) :: others
      else label :: (blanks column ++ first) :: others

end HelpEntry

/-- How far the entries of a section are indented. -/
def HelpEntry.indentation : Nat := 2

def Switch.entry (s : Switch) : HelpEntry :=
  ⟨HelpEntry.indentation, Text.join ", " (s.spellings.map s.withValue), some s.purpose⟩

def Slot.entry : Slot → HelpEntry
  | one label | many label => ⟨HelpEntry.indentation, label, none⟩
  | command _ => ⟨HelpEntry.indentation, Command.alternatives, none⟩

/-- The entries that stand below the one of a slot: those of the commands. -/
def Slot.furtherEntries : Slot → List HelpEntry
  | one _ | many _ => []
  | command _ =>
    Command.all.map fun command => ⟨2 * HelpEntry.indentation, command.name, some command.purpose⟩

namespace Grammar

/-- Where what is said about the entries begins: behind the longest label, but with room left on the
page, and never far to the right. -/
def helpColumn (g : Grammar) (width : Nat) : Nat :=
  let labels := (g.slots.map Slot.entry ++ g.switches.map Switch.entry).map (·.label.length)
  min (HelpEntry.indentation + labels.foldl max 0 + 2) (min 24 (max (width - 20) 4))

/-- The page of help, with so many columns to show it in. -/
def help (g : Grammar) (width : Nat) : Text :=
  let described (entries : List HelpEntry) : List Text :=
    entries.flatMap (HelpEntry.lines width (g.helpColumn width))
  let purpose := g.purpose?.toList.map (Text.inLines (max width 11))
  let sections : List (List Text) :=
    [Text.ofString "positional arguments:" ::
        described (g.slots.flatMap fun slot => slot.entry :: slot.furtherEntries),
      Text.ofString "options:" :: described (g.switches.map Switch.entry)]
  g.usage width ++ "\n" ++ Text.join "\n\n" ((purpose ++ sections).map (Text.join "\n")) ++ "\n"

end Grammar

/-! ## The width -/

/-- How many columns the page has if the environment does not say it. -/
def usualColumns : Nat := 80

/-- How many columns there are for texts: the page has a margin of two. -/
def Environment.pageWidth (environment : Environment) : Nat :=
  let columns :=
    match (environment.get? "COLUMNS").bind Text.toInt? with
    | some n => if 0 < n then n.toNat else usualColumns
    | none => usualColumns
  columns - 2

end NameKeys
