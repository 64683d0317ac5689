import NameKeys.Text.Utf16

/-!
# UTF-7

Texts as ASCII bytes. Most ASCII code points stand for themselves. Every other stretch is written
with the 64 digits of base 64, each for six bits of the units of two bytes that the stretch has,
between a plus sign and a minus sign; the minus sign is left out where no digit and no minus sign
follows. A plus sign outside of a stretch is written with a minus sign after it.
-/

namespace NameKeys

namespace Utf7

/-- The plus sign that opens a stretch. -/
def plus : CodePoint := CodePoint.ofChar '+'

/-- The minus sign that closes a stretch. -/
def minus : CodePoint := CodePoint.ofChar '-'

/-- Whether a code point stands for itself outside of stretches: printable ASCII and common blanks,
but no plus sign, backslash or tilde. -/
def isDirect (c : CodePoint) : Bool :=
  c.val ∈ [0x09, 0x0A, 0x0D] ∨ (0x20 ≤ c.val ∧ c.val ≤ 0x7D ∧ c.val ∉ [0x2B, 0x5C])

/-- The digits of base 64 in the order of their values. -/
def digits : Text := "ABCDEFGHIJKLMNOPQRSTUVWXYZabcdefghijklmnopqrstuvwxyz0123456789+/"

def digit (value : Nat) : CodePoint := digits.getD value plus

def digitValue? (c : CodePoint) : Option Nat := digits.idxOf? c

/-- Bits of a stretch that are still to be written or read, the first weighing most. -/
structure Bits where
  value : Nat
  count : Nat

namespace Bits

def empty : Bits := ⟨0, 0⟩

/-- The bits with those of a number behind them. -/
def add (b : Bits) (width n : Nat) : Bits := ⟨(b.value <<< width) + n, b.count + width⟩

/-- The values of all full groups of `width` bits, and the bits that are left. -/
def takeAll (width : Nat) (b : Bits) : List Nat × Bits :=
  let left := b.count % width
  let group (i : Nat) : Nat := (b.value >>> (left + width * i)) % Nat.pow 2 width
  (((List.range (b.count / width)).map group).reverse, ⟨b.value % Nat.pow 2 left, left⟩)

end Bits

/-- The digits of what is still to be written, filled up with zeros. -/
def lastDigits (b : Bits) : Text :=
  if b.count = 0 then [] else ((b.add (6 - b.count) 0).takeAll 6).1.map digit

/-- The digits of a code point after some bits, and the bits that are left. -/
def digitsOf (b : Bits) (c : CodePoint) : Text × Bits :=
  let (values, left) := ((Utf16.unitsOf c).foldl (fun b unit => b.add 16 unit) b).takeAll 6
  (values.map digit, left)

/-- A text in the code points that are written for it, in a stretch with some bits or outside of
stretches. -/
def spell : (stretch? : Option Bits) → Text → Text
  | none, [] => []
  | some b, [] => lastDigits b ++ [minus]
  | none, c :: rest =>
    if isDirect c then c :: spell none rest
    else if c = plus then plus :: minus :: spell none rest
    else
      let (written, left) := digitsOf .empty c
      plus :: written ++ spell (some left) rest
  | some b, c :: rest =>
    if isDirect c then
      let closing := if (digitValue? c).isSome ∨ c = minus then [minus] else []
      lastDigits b ++ closing ++ c :: spell none rest
    else
      let (written, left) := digitsOf b c
      written ++ spell (some left) rest

def encode (t : Text) : List UInt8 := (spell none t).map fun c => UInt8.ofNat c.val

/-- The place of a code point that is read: outside of stretches, behind the sign that opens one, or
in one. -/
inductive Place where
  | outside
  | opened
  | inside (bits : Bits)

/-- The units of a text that is spelled by some code points. Bits at the end of a stretch that make
no unit are left out. -/
def unitsFrom : Place → Text → List Nat
  | _, [] => []
  | .outside, c :: rest =>
    if c = plus then unitsFrom .opened rest else c.val :: unitsFrom .outside rest
  | .opened, c :: rest =>
    if c = minus then plus.val :: unitsFrom .outside rest else readDigit .empty c rest
  | .inside bits, c :: rest => readDigit bits c rest
where
  /-- The units from a code point on that may be a digit of a stretch. -/
  readDigit (bits : Bits) (c : CodePoint) (rest : Text) : List Nat :=
    match digitValue? c with
    | some value =>
      let (units, left) := (bits.add 6 value).takeAll 16
      units ++ unitsFrom (.inside left) rest
    | none => if c = minus then unitsFrom .outside rest else c.val :: unitsFrom .outside rest

/-- The text of some bytes. What is no ASCII gives the replacement character. -/
def decode (bytes : List UInt8) : Text :=
  Utf16.pairUp (unitsFrom .outside
    (bytes.map fun b => if b < 0x80 then CodePoint.ofNat b.toNat else Utf8.replacement))

end Utf7

end NameKeys
