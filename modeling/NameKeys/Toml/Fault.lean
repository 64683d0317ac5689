import NameKeys.Toml.Item

/-!
# Faults of TOML texts

Why a text has no table. Most texts are malformed in a way that is told apart from all else. A few
faults show only where the text is taken to pieces or the table is put together, and are reported as
what was attempted there.
-/

namespace NameKeys.Toml

/-- Why a text is no TOML document. -/
inductive Fault where
  /-- The text breaks the rules of the notation. -/
  | malformed
  /-- A code point is asked for where a text is over. -/
  | textTooShort
  /-- An item is asked for where a list is over. -/
  | listTooShort
  /-- A table is asked for inside an item that holds none. -/
  | noEntries (item : Item)
  /-- A key is looked for in an item that holds no keys. -/
  | noKeys (item : Item)
  /-- A key is set in an item whose parts cannot be set. -/
  | noAssignment (item : Item)
  /-- A key is given where a list takes a position. -/
  | keyOfList
  /-- A key is given where a text takes a position. -/
  | keyOfText
  /-- A table is added to an item that is no list of tables. -/
  | noList (item : Item)
  /-- An empty key has a value of several lines. -/
  | unnamedLongValue
  /-- An escape has a number that no code point comes near to. -/
  | escapeTooGreat
  /-- A fraction of a second has too many digits. -/
  | fractionTooLong

/-- The message about a text that is no TOML document. -/
def Fault.message : Fault → Text
  | malformed => "malformed TOML document"
  | textTooShort => "string index out of range"
  | listTooShort => "list index out of range"
  | noEntries item => "'" ++ item.typeName ++ "' object is not subscriptable"
  | noKeys item => "argument of type '" ++ item.typeName ++ "' is not iterable"
  | noAssignment item => "'" ++ item.typeName ++ "' object does not support item assignment"
  | keyOfList => "list indices must be integers or slices, not str"
  | keyOfText => "string indices must be integers, not 'str'"
  | noList item => "'" ++ item.typeName ++ "' object has no attribute 'append'"
  | unnamedLongValue =>
    "cannot access local variable 'value' where it is not associated with a value"
  | escapeTooGreat => "Python int too large to convert to C int"
  | fractionTooLong => "int too large to convert to float"

end NameKeys.Toml
