import NameKeys.Canonical.Composition
import NameKeys.Unicode.QuickCheck

/-!
# Canonical forms

The two canonical forms, the quick check that most texts in a form pass, and the transformation of a
text into a form. The quick check looks at each code point once. Its answer is certain unless the
text holds a code point that composes in some places, and only then is the text compared with its
transformation.
-/

namespace NameKeys

/-- A canonical form to bring names into, or none. -/
inductive CanonicalForm where
  | none
  | compose
  | decompose
  deriving DecidableEq, Repr

namespace CanonicalForm

/-- The forms in the order in which they are listed. -/
def all : List CanonicalForm := [none, compose, decompose]

def name : CanonicalForm → Text
  | none => "NONE"
  | compose => "COMPOSE"
  | decompose => "DECOMPOSE"

def label : CanonicalForm → Text
  | none => "none"
  | compose => "NFC"
  | decompose => "NFD"

/-- The form of a text, by decomposition, ordering and composition. -/
def transform : CanonicalForm → Text → Text
  | none, t => t
  | compose, t => t.compose
  | decompose, t => t.decompose

/-- An answer of the quick check. -/
inductive Verdict where
  | yes
  | maybe
  | no
  deriving DecidableEq, Repr

/-- What one code point says about whether the text it stands in is in a form. -/
def verdictOn : CanonicalForm → CodePoint → Verdict
  | none, _ => .yes
  | compose, c =>
    if Unicode.composedNo c.val then .no else if Unicode.composedMaybe c.val then .maybe else .yes
  | decompose, c => if Unicode.decomposedNo c.val then .no else .yes

/-- Whether no mark stands directly behind a mark of a greater class. -/
def marksInOrder : Text → Bool
  | [] | [_] => true
  | a :: b :: rest =>
    (b.isStarter || a.combiningClass ≤ b.combiningClass) && marksInOrder (b :: rest)

/-- The quick check: `no` on a mark out of order or a code point that does not occur in the form,
else `maybe` on a code point that occurs in some places only, else `yes`. -/
def quickCheck (form : CanonicalForm) (t : Text) : Verdict :=
  if !marksInOrder t then .no
  else if t.any fun c => form.verdictOn c = .no then .no
  else if t.any fun c => form.verdictOn c = .maybe then .maybe
  else .yes

def holds (form : CanonicalForm) (t : Text) : Bool :=
  match form.quickCheck t with
  | .yes => true
  | .no => false
  | .maybe => form.transform t = t

/-- The text in a form. Text that is in the form already is returned as it is. -/
def apply (form : CanonicalForm) (t : Text) : Text :=
  match form with
  | none => t
  | form => if form.holds t then t else form.transform t

end CanonicalForm

end NameKeys
