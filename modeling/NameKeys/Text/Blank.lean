import NameKeys.Text.Basic

/-!
# Blank code points

Two sets of white space. `isWhiteSpace` is the White_Space property, which is what may surround a
numeral. `isBlank` is what surrounds a name or a list item and is stripped from it: white space and
the four information separators `U+001C` to `U+001F`.
-/

namespace NameKeys

namespace CodePoint

/-- White space as the White_Space property has it. -/
def isWhiteSpace (c : CodePoint) : Bool :=
  (0x09 ≤ c.val && c.val ≤ 0x0D) || c.val == 0x20 || c.val == 0x85 || c.val == 0xA0 ||
  c.val == 0x1680 || (0x2000 ≤ c.val && c.val ≤ 0x200A) || c.val == 0x2028 || c.val == 0x2029 ||
  c.val == 0x202F || c.val == 0x205F || c.val == 0x3000

/-- White space and the information separators. -/
def isBlank (c : CodePoint) : Bool := (0x1C ≤ c.val && c.val ≤ 0x1F) || c.isWhiteSpace

end CodePoint

namespace Text

/-- The text without the blanks around it. -/
def strip (t : Text) : Text := t.trimWhere CodePoint.isBlank

/-- A numeral without the white space around it. -/
def stripNumeral (t : Text) : Text := t.trimWhere CodePoint.isWhiteSpace

/-- Whether nothing but blanks stands in a text. -/
def isBlank (t : Text) : Bool := t.all CodePoint.isBlank

end Text

end NameKeys
