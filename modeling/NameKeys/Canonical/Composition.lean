import NameKeys.Canonical.Decomposition
import NameKeys.Unicode.Composition

/-!
# Canonical composition

Decomposed text is composed from left to right. A code point composes with the last starter before
it if the two have a primary composite and nothing between them blocks it: between the two stand
only marks of a smaller class, or nothing.
-/

namespace NameKeys

/-- The primary composite of two code points. -/
def CodePoint.composite? (first second : CodePoint) : Option CodePoint :=
  ((Hangul.composite? first.val second.val).orElse fun _ =>
    Unicode.composite? first.val second.val).map ofNat

namespace Text

/-- Whether a code point after a starter and the marks that stay between, the last mark first, is
out of the starter's reach. -/
def isBlocked (c : CodePoint) : (between : List CodePoint) → Bool
  | [] => false
  | last :: _ => c.combiningClass ≤ last.combiningClass

/-- The composition of a starter, marks after it that did not compose with it, the last first, and
the rest of a decomposed text. -/
def composeAfter (starter : CodePoint) (between : List CodePoint) : Text → Text
  | [] => starter :: between.reverse
  | c :: rest =>
    match if isBlocked c between then none else CodePoint.composite? starter c with
    | some composite => composeAfter composite between rest
    | none =>
      if c.isStarter then starter :: between.reverse ++ composeAfter c [] rest
      else composeAfter starter (c :: between) rest

/-- The canonical composition of a decomposed text. Marks before the first starter stay as they
are. -/
def composeMarks : Text → Text
  | [] => []
  | c :: rest => if c.isStarter then composeAfter c [] rest else c :: composeMarks rest

/-- The canonical composition of a text. -/
def compose (t : Text) : Text := composeMarks t.decompose

end Text

end NameKeys
