import NameKeys.Text.Basic

/-!
# Texts in lines

A text is set in lines of a width. It is divided at its blanks and after its hyphens, and every
piece goes on the line that is being filled if it fits there, else on the next one. A piece that
fits on no line is broken where the lines end.
-/

namespace NameKeys

/-- The lines that are filled, the last of them first, and the line that is being filled. -/
structure Lines where
  filled : List Text
  line : Text
  deriving DecidableEq, Repr

namespace Lines

def blank : CodePoint := CodePoint.ofChar ' '

def empty : Lines := ⟨[], []⟩

/-- A line without the blank at its end. -/
def trimmed (line : Text) : Text := if line.getLast? = some blank then line.dropLast else line

/-- The lines with one more code point, on the next line if the width is reached. -/
def pour (width : Nat) (s : Lines) (c : CodePoint) : Lines :=
  if s.line.length < width then { s with line := s.line ++ [c] } else ⟨s.line :: s.filled, [c]⟩

/-- The lines with one more piece. A blank that does not fit is left out. -/
def place (width : Nat) (s : Lines) (piece : Text) : Lines :=
  if s.line.length + piece.length ≤ width then { s with line := s.line ++ piece }
  else if width < piece.length then piece.foldl (pour width) s
  else ⟨trimmed s.line :: s.filled, if piece = [blank] then [] else piece⟩

/-- The lines from the first to the last. -/
def toList (s : Lines) : List Text :=
  (if s.line.isEmpty then s.filled else trimmed s.line :: s.filled).reverse

end Lines

namespace Text

/-- The pieces of a word: it can be divided after its hyphens. -/
def syllables (word : Text) : List Text :=
  let hyphen := CodePoint.ofChar '-'
  let parts := splitOn hyphen word
  (parts.dropLast.map (· ++ [hyphen]) ++ [parts.getLastD []]).filter fun part => !part.isEmpty

/-- The pieces of a text that has one blank between each two words. -/
def pieces (t : Text) : List Text :=
  (((splitOn Lines.blank t).map syllables).intersperse [[Lines.blank]]).flatten

/-- The lines of a width that a text is set in. -/
def inLines (width : Nat) (t : Text) : List Text :=
  ((pieces t).foldl (Lines.place width) Lines.empty).toList

end Text

end NameKeys
