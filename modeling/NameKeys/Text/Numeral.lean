import NameKeys.Text.Basic

/-!
# Numerals

Whole numbers in decimal and fixed-width numerals in hexadecimal, and the limit on how long a
decimal numeral may be.
-/

namespace NameKeys

/-- The most digits with which a whole number is written or read in decimal. -/
def maxDigits : Nat := 4300

namespace Text

/-- Whether a text starts with a minus sign, and the text without its sign. -/
def spanSign : Text → Bool × Text
  | [] => (false, [])
  | c :: rest =>
    if c = CodePoint.ofChar '-' then (true, rest)
    else if c = CodePoint.ofChar '+' then (false, rest) else (false, c :: rest)

/-- The values of the decimal digits a text starts with, and the rest. -/
def spanDigits (t : Text) : List Nat × Text :=
  ((t.takeWhile fun c => c.asciiDigit?.isSome).filterMap CodePoint.asciiDigit?,
    t.dropWhile fun c => c.asciiDigit?.isSome)

/-- A number in decimal, without leading zeros. -/
def ofNat (n : Nat) : Text := (Nat.toDigits 10 n).map CodePoint.ofChar

/-- An integer in decimal, with a minus sign where it is negative. -/
def ofInt : Int → Text
  | .ofNat n => ofNat n
  | .negSucc n => '-' :: ofNat (n + 1)

/-- The last `width` decimal digits of a number, zeros in front of it. -/
def padded : (width : Nat) → Nat → Text
  | 0, _ => []
  | width + 1, n => padded width (n / 10) ++ [CodePoint.ofDigit (n % 10)]

/-- The last `width` hexadecimal digits of a number, in lower case. -/
def hex : (width : Nat) → Nat → Text
  | 0, _ => []
  | width + 1, n => hex width (n / 16) ++ [CodePoint.ofDigit (n % 16)]

end Text

/-- The number that decimal digits denote, the first digit weighing most. -/
def ofDecimalDigits (digits : List Nat) : Nat := digits.foldl (fun n d => 10 * n + d) 0

/-- Whether an integer has few enough digits to be written in decimal. -/
def hasDecimalText (n : Int) : Bool := n.natAbs < Nat.pow 10 maxDigits

/-- The message about an integer with too many digits to be written. -/
def tooManyDigits : Text :=
  "Exceeds the limit (4300 digits) for integer string conversion; " ++
  Text.ofString "use sys.set_int_max_str_digits() to increase the limit"

end NameKeys
