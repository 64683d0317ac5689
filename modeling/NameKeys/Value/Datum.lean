import NameKeys.Value.Json

/-!
# Data

What a log record's context may hold in a place: values, members of any enumeration, and lists,
tuples and dictionaries of such data. Anything that can be looked up may be a key of a dictionary.
-/

namespace NameKeys

/-- A name that a program gives to a class or to something in it. It is an identifier, so it is on
one line. -/
structure Identifier where
  text : Text
  isOneLine : CodePoint.ofChar '\n' ∉ text

/-- A datum. A member of an enumeration has a value, and in some enumerations it is that value, as a
number or a text, and is taken for it where only its value can be written. -/
inductive Datum where
  | value (v : Value)
  | member (kind name : Identifier) (v : Datum) (isValue : Bool)
  | list (items : List Datum)
  | tuple (items : List Datum)
  | dict (entries : List (Datum × Datum))
  deriving Inhabited

/-- Why a datum has no JSON: an integer in it has too many digits, or something of the named kind is
a key. -/
inductive JsonFault where
  | numeralTooLong
  | key (kind : Text)
  deriving DecidableEq, Repr

/-- The message about a datum without JSON. -/
def JsonFault.message : JsonFault → Text
  | numeralTooLong => tooManyDigits
  | key kind => "keys must be str, int, float, bool or None, not " ++ kind

namespace Datum

def ofTable (table : Table) : Entries Datum := table.map fun (key, v) => (key, value v)

/-- The dictionary of entries with texts for keys. -/
def object (entries : Entries Datum) : Datum :=
  dict (entries.map fun (key, d) => (value (.text key), d))

/-- The kind of a datum, as messages name it. -/
def typeName : Datum → Text
  | value v => v.typeName
  | member kind _ _ _ => kind.text
  | list _ => "list"
  | tuple _ => "tuple"
  | dict _ => "dict"

/-! ## Literals -/

mutual

def literal : Datum → Text
  | value v => v.literal
  | member kind name v _ => "<" ++ kind.text ++ "." ++ name.text ++ ": " ++ literal v ++ ">"
  | list items => "[" ++ Text.join ", " (literals items) ++ "]"
  | tuple items =>
    match items with
    | [item] => "(" ++ literal item ++ ",)"
    | items => "(" ++ Text.join ", " (literals items) ++ ")"
  | dict entries => "\x7b" ++ Text.join ", " (entryLiterals entries) ++ "\x7d"
termination_by structural d => d

/-- The literals of the items of a list. -/
def literals : List Datum → List Text
  | [] => []
  | d :: ds => literal d :: literals ds
termination_by structural ds => ds

/-- The literals of the entries of a dictionary. -/
def entryLiterals : List (Datum × Datum) → List Text
  | [] => []
  | (key, d) :: rest => (literal key ++ ": " ++ literal d) :: entryLiterals rest
termination_by structural entries => entries

end

mutual

/-- Whether every integer in a datum can be written. -/
def hasLiteral : Datum → Bool
  | value v => v.hasLiteral
  | member _ _ v _ => hasLiteral v
  | list items | tuple items => haveLiterals items
  | dict entries => entriesHaveLiterals entries
termination_by structural d => d

/-- Whether every integer in the data can be written. -/
def haveLiterals : List Datum → Bool
  | [] => true
  | d :: ds => hasLiteral d && haveLiterals ds
termination_by structural ds => ds

/-- Whether every integer in the entries can be written. -/
def entriesHaveLiterals : List (Datum × Datum) → Bool
  | [] => true
  | (key, d) :: rest => hasLiteral key && hasLiteral d && entriesHaveLiterals rest
termination_by structural entries => entries

end

/-! ## JSON -/

/-- The JSON string of a datum that is a key. -/
def jsonKey : Datum → Except JsonFault Text
  | value (.text t) => .ok t.json
  | value (.bool b) => .ok (Value.bool b).json.json
  | value .null => .ok Value.null.json.json
  | value (.float x) => .ok x.json.json
  | value (.int n) =>
    if hasDecimalText n then .ok (Text.ofInt n).json else .error .numeralTooLong
  | member _ _ v true => jsonKey v
  | d => .error (.key d.typeName)

mutual

/-- The JSON of a datum. A member of an enumeration that is not its value is written by its name. -/
def json : Datum → Except JsonFault Text
  | value v => if v.hasLiteral then .ok v.json else .error .numeralTooLong
  | member kind name v isValue =>
    if isValue then json v else .ok (Text.json (kind.text ++ "." ++ name.text))
  | list items | tuple items => do
    let pieces ← jsonItems items
    return "[" ++ Text.join ", " pieces ++ "]"
  | dict entries => do
    let pieces ← jsonEntries entries
    return "\x7b" ++ Text.join ", " pieces ++ "\x7d"
termination_by structural d => d

def jsonItems : List Datum → Except JsonFault (List Text)
  | [] => .ok []
  | d :: ds => do
    let piece ← json d
    return piece :: (← jsonItems ds)
termination_by structural ds => ds

/-- The JSON of the entries of a dictionary. -/
def jsonEntries : List (Datum × Datum) → Except JsonFault (List Text)
  | [] => .ok []
  | (key, d) :: rest => do
    let name ← jsonKey key
    let piece ← json d
    return (name ++ ": " ++ piece) :: (← jsonEntries rest)
termination_by structural entries => entries

end

end Datum

end NameKeys
