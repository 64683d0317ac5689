import NameKeys.Value.Basic

/-!
# TOML items

What a key of a TOML document holds. A table remembers whether it was written inline: nothing but
messages depends on it. `Item.toValue` is the untyped value that an item stands for.
-/

namespace NameKeys.Toml

/-- A value in a TOML document. -/
inductive Item where
  | bool (b : Bool)
  | int (n : Int)
  | float (x : Binary64)
  | text (t : Text)
  | moment (m : Moment)
  | list (items : List Item)
  | table (isInline : Bool) (entries : List (Text × Item))

namespace Item

/-- The kind of an item, as messages name it. -/
def typeName : Item → Text
  | bool _ => "bool"
  | int _ => "int"
  | float _ => "float"
  | text _ => "str"
  | moment m => m.typeName
  | list _ => "list"
  | table isInline _ => if isInline then "DynamicInlineTableDict" else "dict"

/-- An empty table that is not written inline. -/
def newTable : Item := table false []

mutual

def toValue : Item → Value
  | bool b => .bool b
  | int n => .int n
  | float x => .float x
  | text t => .text t
  | moment m => .moment m
  | list items => .list (toValues items)
  | table _ entries => .table (toEntries entries)
termination_by structural item => item

def toValues : List Item → List Value
  | [] => []
  | item :: rest => toValue item :: toValues rest
termination_by structural items => items

def toEntries : Entries Item → Table
  | [] => []
  | (key, item) :: rest => (key, toValue item) :: toEntries rest
termination_by structural entries => entries

end

end Item

end NameKeys.Toml
