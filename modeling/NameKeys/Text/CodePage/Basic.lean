import NameKeys.Text.Utf8

/-!
# Code pages

Encodings with one byte for each code point, given by what the 256 bytes stand for in order. The
replacement character stands where a byte stands for nothing. Where two bytes stand for one code
point, the greater one is written.
-/

namespace NameKeys

/-- What the bytes stand for, in order. -/
structure CodePage where
  codes : Text
  deriving DecidableEq, Repr

namespace CodePage

/-- The code page of two texts of 128 code points each. -/
def ofHalves (lower upper : String) : CodePage := ⟨Text.ofString lower ++ Text.ofString upper⟩

/-- The code page whose lower half is ASCII. -/
def ofUpperHalf (upper : String) : CodePage :=
  ⟨(List.range 128).map CodePoint.ofNat ++ Text.ofString upper⟩

/-- The last place of a code point among some that are counted from `index` on. -/
def lastIndex? (c : CodePoint) (index : Nat) : Text → Option Nat
  | [] => none
  | d :: rest => (lastIndex? c (index + 1) rest).or (if d = c then some index else none)

def encodeOne? (p : CodePage) (c : CodePoint) : Option UInt8 :=
  if c = Utf8.replacement then none else (lastIndex? c 0 p.codes).map UInt8.ofNat

def decodeOne (p : CodePage) (b : UInt8) : CodePoint := p.codes.getD b.toNat Utf8.replacement

end CodePage

end NameKeys
