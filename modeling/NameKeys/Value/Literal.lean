import NameKeys.Text.Quoted
import NameKeys.Value.Basic

/-!
# Literals

How a value is written on one line. Texts and bytes are quoted, so a literal holds no line break. An
integer of more than 4300 digits has no literal, and neither has a value with one inside.
-/

namespace NameKeys

namespace Value

/-- An option of the program with its name and the text it stands for. -/
def optionLiteral (kind symbol label : Text) : Text :=
  "<" ++ kind ++ "." ++ symbol ++ ": " ++ Text.quoted label ++ ">"

mutual

def literal : Value → Text
  | null => "None"
  | bool b => if b then "True" else "False"
  | int n => Text.ofInt n
  | float x => x.toText
  | text t => Text.quoted t
  | bytes bs => quotedBytes bs
  | list items => "[" ++ Text.join ", " (literals items) ++ "]"
  | tuple items =>
    match items with
    | [item] => "(" ++ literal item ++ ",)"
    | items => "(" ++ Text.join ", " (literals items) ++ ")"
  | set items =>
    match items with
    | [] => "set()"
    | item :: rest => "\x7b" ++ Text.join ", " (literal item :: literals rest) ++ "\x7d"
  | generator _ => "<generator object>"
  | table entries => "\x7b" ++ Text.join ", " (entryLiterals entries) ++ "\x7d"
  | option o => optionLiteral "Normalization" o.symbol o.name
  | form f => optionLiteral "CanonicalForm" f.name f.label
  | fold f => optionLiteral "CaseFold" f.name f.label
  | moment m => "<" ++ m.typeName ++ ">"
termination_by structural v => v

/-- The literals of the items of a list. -/
def literals : List Value → List Text
  | [] => []
  | v :: vs => literal v :: literals vs
termination_by structural vs => vs

/-- The literals of the entries of a table. -/
def entryLiterals : List (Text × Value) → List Text
  | [] => []
  | (key, v) :: rest => (Text.quoted key ++ ": " ++ literal v) :: entryLiterals rest
termination_by structural entries => entries

end

mutual

/-- Whether every integer in a value can be written. -/
def hasLiteral : Value → Bool
  | int n => hasDecimalText n
  | list items | tuple items | set items => haveLiterals items
  | table entries => entriesHaveLiterals entries
  | _ => true
termination_by structural v => v

/-- Whether every integer in the values can be written. -/
def haveLiterals : List Value → Bool
  | [] => true
  | v :: vs => hasLiteral v && haveLiterals vs
termination_by structural vs => vs

/-- Whether every integer in the entries can be written. -/
def entriesHaveLiterals : List (Text × Value) → Bool
  | [] => true
  | (_, v) :: rest => hasLiteral v && entriesHaveLiterals rest
termination_by structural entries => entries

end

/-- How a value is written for a reader: a text as it stands, an option of the program by its name,
anything else as a literal. -/
def display : Value → Text
  | text t => t
  | option o => "Normalization." ++ o.symbol
  | form f => "CanonicalForm." ++ f.name
  | fold f => "CaseFold." ++ f.name
  | v => v.literal

end Value

end NameKeys
