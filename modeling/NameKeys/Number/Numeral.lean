import NameKeys.Number.Binary64
import NameKeys.Text.Case
import NameKeys.Text.Integer

/-!
# Numerals of floating-point numbers

Floating-point numbers as people write them: white space around, a sign, digits of any script with a
point among them, single underscores between digits, an exponent. Infinity and the absent number
have names, in any case.
-/

namespace NameKeys

namespace Text

/-- A numeral without its underscores, each of which stands between two ASCII digits. -/
def dropSeparators? (afterDigit : Bool) : Text → Option Text
  | [] => some []
  | c :: rest =>
    if c = CodePoint.ofChar '_' then
      match afterDigit, rest with
      | true, d :: _ => if d.asciiDigit?.isSome then dropSeparators? false rest else none
      | _, _ => none
    else (dropSeparators? c.asciiDigit?.isSome rest).map (c :: ·)

end Text

namespace Binary64

/-- The number of digits with a point somewhere and an exponent, of which all parts but one digit
may be missing. -/
def ofDigits? (negative : Bool) (t : Text) : Option Binary64 :=
  let (whole, rest) := Text.spanDigits t
  let (fraction, rest) :=
    match rest with
    | c :: after => if c = CodePoint.ofChar '.' then Text.spanDigits after else ([], rest)
    | [] => ([], rest)
  let digits := whole ++ fraction
  let number (e : Int) : Option Binary64 :=
    if digits.isEmpty then none else some (ofDecimal negative digits (e - fraction.length))
  match rest with
  | [] => number 0
  | c :: after =>
    if c = CodePoint.ofChar 'e' ∨ c = CodePoint.ofChar 'E' then
      let (minus, power) := Text.spanSign after
      match Text.spanDigits power with
      | (d :: ds, []) => number (Text.signed minus (d :: ds))
      | _ => none
    else none

def ofText? (t : Text) : Option Binary64 := do
  let plain ← Text.dropSeparators? false ((Text.stripNumeral t).map CodePoint.withAsciiDigit)
  let (negative, size) := Text.spanSign plain
  let name := Text.foldAsciiCase size
  if name = "inf" ∨ name = "infinity" then return infinity negative
  else if name = "nan" then return nan
  else ofDigits? negative size

end Binary64

end NameKeys
