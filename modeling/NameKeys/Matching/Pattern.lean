import NameKeys.Matching.Key

/-!
# Patterns

A pattern is compiled from one name and a profile, and tells which candidates are equivalent to the
name. A candidate identical to the name matches at once. For other candidates the steps that the
profile selects are applied to both sides. The name's side is computed for the first candidate that
needs it, and kept.
-/

namespace NameKeys

/-- A name to match candidates against. `key?` holds the name's key once a candidate needed it. -/
structure Pattern where
  name : Text
  profile : Profile
  key? : Option Text
  deriving DecidableEq

namespace Pattern

/-- A pattern whose key is yet to be computed. -/
def compile (profile : Profile) (name : Text) : Pattern := ⟨name, profile, none⟩

/-- Whether spellings of one canonical form match each other. -/
def ignoresForm (p : Pattern) : Bool := p.profile.form ≠ .none

/-- Whether some differences of case are ignored. -/
def ignoresCase (p : Pattern) : Bool := p.profile.fold ≠ .none

/-- A text after the steps that the profile selects. -/
def transform (p : Pattern) (t : Text) : Text :=
  let t := if p.ignoresForm then p.profile.form.apply t else t
  if p.ignoresCase then p.profile.fold.apply t else t

/-- Whether a candidate matches, and the pattern afterwards. -/
def matchText (p : Pattern) (candidate : Text) : Bool × Pattern :=
  if candidate = p.name then (true, p)
  else if !(p.ignoresForm || p.ignoresCase) then (false, p)
  else
    let key := p.key?.getD (p.transform p.name)
    (p.transform candidate = key, { p with key? := some key })

/-- Whether a candidate of any kind matches, and the pattern afterwards. A candidate that is no text
is refused and leaves the pattern as it is. -/
def matchValue (p : Pattern) : Value → Except NotText Bool × Pattern
  | .text candidate =>
    let (answer, p) := p.matchText candidate
    (.ok answer, p)
  | value => (.error ⟨value⟩, p)

/-- The pattern and its profile on one line. -/
def describe (p : Pattern) : Text :=
  "CompiledPattern(" ++ Text.quoted p.name ++ ", profile=" ++ Text.quoted p.profile.label ++ ")"

end Pattern

/-- A normalizer of a profile on one line. -/
def Profile.describe (p : Profile) : Text :=
  "PathNormalizer(profile=" ++ Text.quoted p.label ++ ")"

end NameKeys
