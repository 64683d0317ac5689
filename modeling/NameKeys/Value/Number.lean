import NameKeys.Value.Literal

/-!
# Numbers of values

Values as floating-point numbers: numbers are rounded, and texts are read.
-/

namespace NameKeys

/-- Why a value stands for no floating-point number. -/
inductive NumberFault where
  | notANumber (value : Value)
  | unreadable (value : Value)
  | tooLarge

/-- The message about a value that stands for no floating-point number. -/
def NumberFault.message : NumberFault → Text
  | notANumber value =>
    "float() argument must be a string or a real number, not '" ++ value.typeName ++ "'"
  | unreadable value => "could not convert string to float: " ++ value.literal
  | tooLarge => "int too large to convert to float"

/-- The number that a value is or, as a text, denotes. -/
def Value.toNumber : Value → Except NumberFault Binary64
  | .float x => .ok x
  | .bool b => .ok (Binary64.ofInt (if b then 1 else 0))
  | .int n =>
    match Binary64.ofInt n with
    | .infinity _ => .error .tooLarge
    | x => .ok x
  | .text t =>
    match Binary64.ofText? t with
    | some x => .ok x
    | none => .error (.unreadable (.text t))
  | .bytes bs =>
    let t : Text := bs.map fun b => CodePoint.ofNat b.toNat
    match if t.all CodePoint.isAscii then Binary64.ofText? t else none with
    | some x => .ok x
    | none => .error (.unreadable (.bytes bs))
  | value => .error (.notANumber value)

end NameKeys
