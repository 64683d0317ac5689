import NameKeys.Text.Numeral

/-!
# Binary floating-point numbers

The numbers of the 64-bit binary format as exact values, with rounding from decimal and back. A
decimal is rounded to the nearest number, a tie to the one with an even mantissa. A number is
written with the fewest digits that are rounded to it again, and among those with the ones nearest
to it; positional notation is used from `1e-4` up to below `1e16`.
-/

namespace NameKeys

/-- A number of the 64-bit binary format. The finite ones are `mantissa * 2 ^ exponent` with a
mantissa below `2 ^ 53`, which is at least `2 ^ 52` where the exponent is not `-1074`. -/
inductive Binary64 where
  | nan
  | infinity (negative : Bool)
  | finite (negative : Bool) (mantissa : Nat) (exponent : Int)
  deriving DecidableEq, Repr

namespace Binary64

def minExponent : Int := -1074

def maxExponent : Int := 971

/-- The mantissas are below this number, `2 ^ 53`. -/
def mantissaLimit : Nat := 0x20000000000000

/-- `num / den * base ^ e` as a quotient of two natural numbers. -/
def scaled (base num den : Nat) (e : Int) : Nat × Nat :=
  if 0 ≤ e then (num * Nat.pow base e.toNat, den)
  else (num, den * Nat.pow base (-e).toNat)

/-- The natural number nearest to a quotient, a tie going to the even one. -/
def nearest (num den : Nat) : Nat :=
  let q := num / den
  let r := num % den
  if 2 * r < den then q else if den < 2 * r then q + 1 else if q % 2 = 0 then q else q + 1

/-- The number nearest to a quotient of natural numbers. -/
def ofQuotient (negative : Bool) (num den : Nat) : Binary64 :=
  if num = 0 then finite negative 0 minExponent
  else
    let guess : Int := max (num.log2 - den.log2 - 53) minExponent
    let floorAt (e : Int) : Nat := let (n, d) := scaled 2 num den (-e); n / d
    let e := if floorAt guess < mantissaLimit then guess else guess + 1
    let (n, d) := scaled 2 num den (-e)
    let m := nearest n d
    let (m, e) := if m = mantissaLimit then (mantissaLimit / 2, e + 1) else (m, e)
    if maxExponent < e then infinity negative else finite negative m e

def ofInt (n : Int) : Binary64 := ofQuotient (n < 0) n.natAbs 1

/-- The number nearest to the number of some decimal digits times `10 ^ exponent`. Leading zeros do
not count for its size, which tells at once where it is too great or too small to be calculated. -/
def ofDecimal (negative : Bool) (digits : List Nat) (exponent : Int) : Binary64 :=
  let significant := digits.dropWhile (· = 0)
  let size := exponent + significant.length
  if significant.isEmpty then finite negative 0 minExponent
  else if 400 < size then infinity negative
  else if size < -400 then finite negative 0 minExponent
  else
    let (num, den) := scaled 10 (ofDecimalDigits significant) 1 exponent
    ofQuotient negative num den

/-- Zero minus the number; of a zero with either sign that is the positive zero. -/
def negated : Binary64 → Binary64
  | nan => nan
  | infinity negative => infinity (!negative)
  | finite negative mantissa exponent =>
    if mantissa = 0 then finite false 0 minExponent else finite (!negative) mantissa exponent

/-- The integer a number equals, if it is one. -/
def toInt? : Binary64 → Option Int
  | nan | infinity _ => none
  | finite negative m e =>
    let (num, den) := scaled 2 m 1 e
    if num % den = 0 then some (if negative then -(num / den : Nat) else (num / den : Nat))
    else none

/-- How many decimal digits a positive quotient has before the point; zero or less where it is below
one. It is the least `t` for which the quotient is below `10 ^ t`, found from the binary length. -/
def decimalTop (num den : Nat) : Int :=
  let guess : Int := ((num.log2 : Int) - den.log2 - 1) * 30103 / 100000
  let isBelow (t : Int) : Bool := let (power, unit) := scaled 10 1 1 t; num * unit < power * den
  (((List.range 4).map fun (i : Nat) => guess + i).find? isBelow).getD guess

/-- The shortest decimal of a finite number that is not zero, as a numeral and the power of ten that
it is multiplied by. For one digit, two digits and so on the two decimals next to the number are
tried, and the first that lie between the number's neighbours and are rounded to it are taken. -/
def shortestDecimal (mantissa : Nat) (exponent : Int) : Nat × Int :=
  let (quarter, den) := scaled 2 1 1 (exponent - 2)
  let num := 4 * mantissa * quarter
  let gapBelow := if mantissa = mantissaLimit / 2 ∧ minExponent < exponent then 1 else 2
  let low := num - gapBelow * quarter
  let high := num + 2 * quarter
  let readsBack (digits : Nat) (e : Int) : Bool :=
    let (n, d) := scaled 10 digits 1 e
    if mantissa % 2 = 0 then low * d ≤ n * den && n * den ≤ high * d
    else low * d < n * den && n * den < high * d
  let top := decimalTop num den
  let withDigits (count : Nat) : Option (Nat × Int) :=
    let e := top - count
    let (n, d) := scaled 10 num den (-e)
    let (q, r) := (n / d, n % d)
    match readsBack q e, readsBack (q + 1) e with
    | true, true => some (if 2 * r < d ∨ (2 * r = d ∧ q % 2 = 0) then q else q + 1, e)
    | true, false => some (q, e)
    | false, true => some (q + 1, e)
    | false, false => none
  ((List.range' 1 17).findSome? withDigits).getD (mantissa, exponent)

/-- The decimal `digits * 10 ^ exponent` with a point or an exponent. -/
def layOut (digits : Nat) (exponent : Int) : Text :=
  let written := Text.ofNat digits
  let point := written.length + exponent
  let zeroDigit : CodePoint := '0'
  let significant := (written.reverse.dropWhile (· = zeroDigit)).reverse
  let zeros (n : Int) : Text := List.replicate n.toNat zeroDigit
  let withPoint (before after : Text) : Text := before ++ "." ++ after
  if -4 < point ∧ point ≤ 16 then
    if point ≤ 0 then withPoint "0" (zeros (-point) ++ significant)
    else if significant.length ≤ point then
      withPoint (significant ++ zeros (point - significant.length)) "0"
    else withPoint (significant.take point.toNat) (significant.drop point.toNat)
  else
    let (lead, others) := significant.splitAt 1
    let power := (point - 1).natAbs
    (if others.isEmpty then lead else withPoint lead others) ++
      (if point < 1 then "e-" else "e+") ++ Text.padded (max 2 (Text.ofNat power).length) power

def toText : Binary64 → Text
  | nan => "nan"
  | infinity negative => if negative then "-inf" else "inf"
  | finite negative mantissa exponent =>
    let size : Text :=
      if mantissa = 0 then "0.0"
      else
        let (digits, e) := shortestDecimal mantissa exponent
        layOut digits e
    if negative then "-" ++ size else size

end Binary64

end NameKeys
