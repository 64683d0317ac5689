import NameKeys.Value.Basic

/-!
# Merging tables

A table merged with an overriding one. Where both hold a table at a key the two are merged, and
otherwise the overriding value stands. Keys keep their places, and new keys follow in the order of
the overriding table.
-/

namespace NameKeys

mutual

/-- What stands at a key after an overriding value is merged over what stood there before. -/
def Value.mergeOver (override : Value) (base : Option Value) : Value :=
  match override, base with
  | .table override, some (.table base) => .table (Table.mergeOver override base)
  | override, _ => override
termination_by structural override

/-- A table after the entries of an overriding table are merged over it. -/
def Table.mergeOver (override : List (Text × Value)) (base : Table) : Table :=
  match override with
  | [] => base
  | (key, value) :: rest =>
    Table.mergeOver rest (base.put key (value.mergeOver (base.get? key)))
termination_by structural override

end

/-- The base table with an overriding table merged over it. -/
def Table.merge (base override : Table) : Table := Table.mergeOver override base

end NameKeys
