import NameKeys.Canonical.Form
import NameKeys.Number.Numeral
import NameKeys.Profile.CaseFold
import NameKeys.Profile.Option

/-!
# Values

What a configuration file, a log record's context or a caller may hold in a place: settings arrive
untyped and are checked against their rules later. A table keeps the order in which its keys were
put in.
-/

namespace NameKeys

/-- Which of the notations for time a value is in. No setting is a time, so the time itself does not
matter. -/
inductive Moment where
  | date
  | timeOfDay
  | dateTime
  deriving DecidableEq, Repr

/-- The kind of a time, as messages name it. -/
def Moment.typeName : Moment → Text
  | date => "datetime.date"
  | timeOfDay => "datetime.time"
  | dateTime => "datetime.datetime"

/-- An untyped value. -/
inductive Value where
  | null
  | bool (b : Bool)
  | int (n : Int)
  | float (x : Binary64)
  | text (t : Text)
  | bytes (bs : List UInt8)
  | list (items : List Value)
  | tuple (items : List Value)
  | set (items : List Value)
  | generator (items : List Value)
  | table (entries : List (Text × Value))
  | option (o : NormalizationOption)
  | form (f : CanonicalForm)
  | fold (f : CaseFold)
  | moment (m : Moment)
  deriving Inhabited

/-- Keys and what they hold, in order. -/
abbrev Entries (α : Type) := List (Text × α)

namespace Entries

variable {α : Type}

def get? (key : Text) (entries : Entries α) : Option α := List.lookup key entries

/-- The entries with something at a key: in the key's place, or at the end if the key is new. -/
def put (key : Text) (item : α) : Entries α → Entries α
  | [] => [(key, item)]
  | (k, v) :: rest => if k = key then (k, item) :: rest else (k, v) :: put key item rest

def keys (entries : Entries α) : List Text := entries.map Prod.fst

end Entries

abbrev Table := Entries Value

namespace Value

/-- The kind of a value, as messages name it. -/
def typeName : Value → Text
  | null => "NoneType"
  | bool _ => "bool"
  | int _ => "int"
  | float _ => "float"
  | text _ => "str"
  | bytes _ => "bytes"
  | list _ => "list"
  | tuple _ => "tuple"
  | set _ => "set"
  | generator _ => "generator"
  | table _ => "dict"
  | option _ => "Normalization"
  | form _ => "CanonicalForm"
  | fold _ => "CaseFold"
  | moment m => m.typeName

/-- The text a value is, if it is one. -/
def text? : Value → Option Text
  | text t => some t
  | _ => none

/-- Whether a value counts as something: null, false, zero and what is empty do not. -/
def isSomething : Value → Bool
  | null => false
  | bool b => b
  | int n => n ≠ 0
  | float (.finite _ m _) => m ≠ 0
  | text t => !t.isEmpty
  | bytes bs => !bs.isEmpty
  | list items | tuple items | set items => !items.isEmpty
  | table entries => !entries.isEmpty
  | _ => true

/-- What going through a value item by item yields; nothing for a value without items. A table
yields its keys, a text its code points and bytes their numbers. -/
def items? : Value → Option (List Value)
  | list items | tuple items | set items | generator items => some items
  | table entries => some (entries.map fun (key, _) => text key)
  | text t => some (t.map fun c => text [c])
  | bytes bs => some (bs.map fun b => int b.toNat)
  | _ => none

def ofTexts (ts : List Text) : Value := list (ts.map text)

end Value

end NameKeys
