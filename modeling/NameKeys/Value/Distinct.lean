import NameKeys.Value.Basic

/-!
# Distinct values

Which values are equal as items of a set: texts, bytes and choices that are the same, tuples with
equal items, and numbers of whatever kind that are the same number. Of equal items a set holds the
first, and it lists natural numbers in ascending order.
-/

namespace NameKeys.Value

/-- The integer that a value is as a number, if it is one. -/
def asInteger? : Value → Option Int
  | bool b => some (if b then 1 else 0)
  | int n => some n
  | float x => x.toInt?
  | _ => none

/-- Whether two values are the same number. No number is the same as the absent one. -/
def isSameNumber (a b : Value) : Bool :=
  match a.asInteger?, b.asInteger? with
  | some m, some n => m = n
  | none, none =>
    match a, b with
    | float x, float y => x = y && x ≠ .nan
    | _, _ => false
  | _, _ => false

mutual

/-- Whether two values are equal as items of a set. -/
def isSame : Value → Value → Bool
  | null, null => true
  | text s, text t => s = t
  | bytes bs, bytes cs => bs = cs
  | option o, option p => o = p
  | form f, form g => f = g
  | fold f, fold g => f = g
  | tuple xs, tuple ys => areSame xs ys
  | a, b => isSameNumber a b
termination_by structural a => a

/-- Whether the items of two tuples are equal in order. -/
def areSame : List Value → List Value → Bool
  | [], [] => true
  | a :: as, b :: bs => isSame a b && areSame as bs
  | _, _ => false
termination_by structural as => as

end

/-- The values without those that are equal to an earlier one. -/
def distinct (values : List Value) : List Value :=
  values.foldl (fun kept v => if kept.any fun k => isSame k v then kept else kept ++ [v]) []

/-- The natural number that an item is. -/
def natural? : Value → Option Nat
  | bool b => some b.toNat
  | int (.ofNat n) => some n
  | _ => none

def setOf (values : List Value) : Value :=
  let items := distinct values
  if items.all fun v => v.natural?.isSome then
    set (items.mergeSort fun v w => v.natural?.getD 0 ≤ w.natural?.getD 0)
  else set items

end NameKeys.Value
