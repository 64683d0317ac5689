import NameKeys.Text.Numeral
import NameKeys.Unicode.Printable

/-!
# Quoted texts

A text or a byte string as a literal on one line. Single quotes stand around it, or double quotes
where it holds a single quote and no double one. Inside, the backslash and the quote are escaped,
and so is everything that is not printable: no written form holds a line break.
-/

namespace NameKeys

/-- The quote that stands around a text: double only where that spares an escape. -/
def quoteFor (holds : Char → Bool) : CodePoint := if holds '\'' && !holds '"' then '"' else '\''

namespace CodePoint

/-- A code point that is not printable, escaped by its number. -/
def numericEscape (c : CodePoint) : Text :=
  if c.val ≤ 0xFF then "\\x" ++ Text.hex 2 c.val
  else if c.val ≤ 0xFFFF then "\\u" ++ Text.hex 4 c.val
  else "\\U" ++ Text.hex 8 c.val

/-- One code point as it stands between quotes. -/
def quotedWithin (quote c : CodePoint) : Text :=
  if c = quote ∨ c = ofChar '\\' then ['\\', c]
  else if c = ofChar '\t' then "\\t"
  else if c = ofChar '\n' then "\\n"
  else if c = ofChar '\r' then "\\r"
  else if c.val < 0x20 then c.numericEscape
  else if c.val < 0x7F then [c]
  else if Unicode.isPrintable c.val then [c]
  else c.numericEscape

end CodePoint

def Text.quoted (t : Text) : Text :=
  let quote := quoteFor fun c => t.contains (CodePoint.ofChar c)
  [quote] ++ t.flatMap (CodePoint.quotedWithin quote) ++ [quote]

/-- One byte as it stands between quotes. -/
def byteWithin (quote : CodePoint) (b : UInt8) : Text :=
  let c := CodePoint.ofNat b.toNat
  if b.toNat < 0x7F then CodePoint.quotedWithin quote c else c.numericEscape

def quotedBytes (bytes : List UInt8) : Text :=
  let quote := quoteFor fun c => bytes.any fun b => b.toNat = c.toNat
  ("b" : Text) ++ [quote] ++ bytes.flatMap (byteWithin quote) ++ [quote]

end NameKeys
