import NameKeys.Text.Numeral
import NameKeys.Text.Utf8

/-!
# Escaped texts

Texts as bytes in which a backslash begins the escape of a code point: `\x`, `\u` and `\U` with two,
four and eight hexadecimal digits. In the full form all that is not printable ASCII is escaped, and
so is the backslash. In the raw form code points below 256 stand for themselves, the backslash too,
so that a text with a backslash may be read as another text.
-/

namespace NameKeys

namespace Escaped

def backslash : CodePoint := CodePoint.ofChar '\\'

/-- The escape of a code point, with as few digits as its number needs. -/
def escape (c : CodePoint) : Text :=
  if c.val ≤ 0xFF then "\\x" ++ Text.hex 2 c.val
  else if c.val ≤ 0xFFFF then "\\u" ++ Text.hex 4 c.val
  else "\\U" ++ Text.hex 8 c.val

/-- The letters after a backslash that stand for a code point. -/
def letters : List (Char × Char) := [('t', '\t'), ('n', '\n'), ('r', '\r'), ('\\', '\\')]

/-- How a code point is spelled in the full form. -/
def spellOne (c : CodePoint) : Text :=
  match letters.find? fun (_, meaning) => c = CodePoint.ofChar meaning with
  | some (letter, _) => [backslash, CodePoint.ofChar letter]
  | none => if 0x20 ≤ c.val ∧ c.val < 0x7F then [c] else escape c

/-- How a code point is spelled in the raw form. -/
def spellOneRaw (c : CodePoint) : Text := if c.val < 0x100 then [c] else escape c

/-- The bytes of a text in one of the forms. -/
def encode (isRaw : Bool) (t : Text) : List UInt8 :=
  (t.flatMap (if isRaw then spellOneRaw else spellOne)).map fun c => UInt8.ofNat c.val

/-- What is read of an escape: nothing yet, a backslash, or `missing` digits are still to come. -/
inductive Place where
  | outside
  | behindBackslash
  | inNumber (value missing : Nat)

/-- The number of digits that a letter after a backslash announces. -/
def digitsAfter? (isRaw : Bool) (c : CodePoint) : Option Nat :=
  if c = CodePoint.ofChar 'u' then some 4
  else if c = CodePoint.ofChar 'U' then some 8
  else if c = CodePoint.ofChar 'x' ∧ !isRaw then some 2
  else none

/-- The text that is spelled by some code points. An escape that breaks off gives the replacement
character, and so does one of no code point; a backslash that begins no escape stands for itself. -/
def read (isRaw : Bool) : Place → Text → Text
  | .outside, [] => []
  | .behindBackslash, [] => [backslash]
  | .inNumber _ _, [] => [Utf8.replacement]
  | .outside, c :: rest => readPlain c rest
  | .behindBackslash, c :: rest =>
    match digitsAfter? isRaw c with
    | some missing => read isRaw (.inNumber 0 missing) rest
    | none =>
      let named? := letters.find? fun (letter, _) => c = CodePoint.ofChar letter
      match if isRaw then none else named? with
      | some (_, meaning) => CodePoint.ofChar meaning :: read isRaw .outside rest
      | none => backslash :: c :: read isRaw .outside rest
  | .inNumber value missing, c :: rest =>
    match c.hexDigit? with
    | none => Utf8.replacement :: readPlain c rest
    | some d =>
      let value := 16 * value + d
      if 1 < missing then read isRaw (.inNumber value (missing - 1)) rest
      else
        (if value < 0x110000 then CodePoint.ofNat value else Utf8.replacement) ::
          read isRaw .outside rest
where
  /-- The text from a code point on that is in no escape, but may begin one. -/
  readPlain (c : CodePoint) (rest : Text) : Text :=
    if c = backslash then read isRaw .behindBackslash rest else c :: read isRaw .outside rest

/-- The text of some bytes in one of the forms. -/
def decode (isRaw : Bool) (bytes : List UInt8) : Text :=
  read isRaw .outside (bytes.map fun b => CodePoint.ofNat b.toNat)

end Escaped

end NameKeys
