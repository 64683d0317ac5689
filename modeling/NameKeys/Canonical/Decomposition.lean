import NameKeys.Canonical.Hangul
import NameKeys.Text.Basic
import NameKeys.Unicode.CombiningClass
import NameKeys.Unicode.Decomposition

/-!
# Canonical decomposition

Every code point is replaced by its full canonical decomposition, and then every run of marks, the
code points of a non-zero combining class, is sorted by class. The sort is stable: marks of one
class keep their order, and a mark never passes a code point of class 0.
-/

namespace NameKeys

namespace CodePoint

def combiningClass (c : CodePoint) : Nat := Unicode.combiningClass c.val

/-- A starter is a code point of class 0. -/
def isStarter (c : CodePoint) : Bool := c.combiningClass == 0

/-- The full canonical decomposition of one code point: itself where it has none. -/
def decomposition (c : CodePoint) : Text :=
  match Hangul.decomposition? c.val with
  | some jamo => jamo.map ofNat
  | none =>
    match Unicode.fullDecomposition? c.val with
    | some parts => parts.map ofNat
    | none => [c]

end CodePoint

namespace Text

/-- A code point put in front of ordered text. A mark moves behind the marks of a smaller class that
the text begins with. -/
def insertMark (c : CodePoint) : Text → Text
  | [] => [c]
  | d :: rest =>
    if d.combiningClass ≠ 0 ∧ d.combiningClass < c.combiningClass then d :: insertMark c rest
    else c :: d :: rest

/-- The text with every run of marks in order of class, marks of one class in their order. -/
def orderMarks (t : Text) : Text := t.foldr insertMark []

/-- The full canonical decomposition of a text. -/
def decompose (t : Text) : Text := orderMarks (t.flatMap CodePoint.decomposition)

end Text

end NameKeys
