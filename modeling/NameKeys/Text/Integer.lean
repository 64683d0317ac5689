import NameKeys.Text.Blank
import NameKeys.Text.Numeral
import NameKeys.Unicode.DecimalDigit

/-!
# Integers in text

Decimal integers as people write them: white space around, a sign, digits with single underscores
between them. Which digits count is left to the reader: those of every script, or the ASCII ones.
-/

namespace NameKeys

namespace CodePoint

/-- The value of a decimal digit of any script. -/
def decimalDigit? (c : CodePoint) : Option Nat := Unicode.decimalDigit? c.val

/-- A decimal digit of any script as the ASCII digit of its value, and any other code point as it
is. -/
def withAsciiDigit (c : CodePoint) : CodePoint :=
  match c.decimalDigit? with
  | some d => ofDigit d
  | none => c

end CodePoint

namespace Text

/-- The values of digits with at most one underscore between each two and nothing else. -/
def separatedDigits? (digit? : CodePoint → Option Nat) : Text → Option (List Nat)
  | [] => none
  | [c] => (digit? c).map fun d => [d]
  | c :: next :: rest =>
    match digit? c with
    | none => none
    | some d =>
      (if next = CodePoint.ofChar '_' then separatedDigits? digit? rest
        else separatedDigits? digit? (next :: rest)).map (d :: ·)

def signed (negative : Bool) (digits : List Nat) : Int :=
  if negative then -(ofDecimalDigits digits : Int) else ofDecimalDigits digits

/-- The integer that a text denotes: white space around it does not count, digits are those of every
script, and there are at most 4300 of them. -/
def toInt? (t : Text) : Option Int :=
  let (negative, numeral) := spanSign (stripNumeral t)
  match separatedDigits? CodePoint.decimalDigit? numeral with
  | none => none
  | some digits => if digits.length ≤ maxDigits then some (signed negative digits) else none

end Text

end NameKeys
