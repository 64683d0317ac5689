import NameKeys.Value.Basic

/-!
# Values in place of texts

What the operations on texts do with a value of any kind: an operation that leaves every text as it
is takes any value, and the others refuse what is no text.
-/

namespace NameKeys

/-- Why a value cannot take the place of a text: it has no such operation, or as bytes it takes
other operands for it, or it is no argument of it. -/
inductive TextFault where
  | lacks (value : Value) (operation : Text)
  | takesBytes (operand : Text)
  | argument (value : Value) (operation : Text)

/-- The message about a value that cannot take the place of a text. -/
def TextFault.message : TextFault → Text
  | lacks value operation =>
    "'" ++ value.typeName ++ "' object has no attribute '" ++ operation ++ "'"
  | takesBytes operand => "a bytes-like object is required, not '" ++ operand ++ "'"
  | argument value operation =>
    let kind : Text := match value with | .null => "None" | value => value.typeName
    operation ++ "() argument 2 must be str, not " ++ kind

/-- A value with differences of case gone. -/
def CaseFold.applyTo : CaseFold → Value → Except TextFault Value
  | .none, value => .ok value
  | fold, .text t => .ok (.text (fold.apply t))
  | .ascii, .bytes _ => .error (.takesBytes "dict")
  | .ascii, value => .error (.lacks value "translate")
  | .unicode, value => .error (.lacks value "casefold")

def CanonicalForm.applyTo : CanonicalForm → Value → Except TextFault Value
  | .none, value => .ok value
  | form, .text t => .ok (.text (form.apply t))
  | _, value => .error (.argument value "is_normalized")

end NameKeys
