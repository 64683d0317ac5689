import NameKeys.Profile.Basic

/-!
# Comparison keys

The key of a name under a profile is the name in the profile's canonical form with the profile's
case folding applied to it. Two names are equivalent when their keys are equal. The order matters:
folding ASCII letters reaches a letter under an accent in decomposed text and not in composed text.
-/

namespace NameKeys

/-- A value that stands where a name should stand and is no text. -/
structure NotText where
  value : Value

/-- The message about a value that is no text. -/
def NotText.message (e : NotText) : Text := "expected str, got " ++ e.value.typeName

def Value.toName : Value → Except NotText Text
  | .text t => .ok t
  | value => .error ⟨value⟩

namespace Profile

def key (p : Profile) (name : Text) : Text := p.fold.apply (p.form.apply name)

/-- Whether two names have the same key. -/
def equivalent (p : Profile) (first second : Text) : Bool := p.key first = p.key second

end Profile

end NameKeys
